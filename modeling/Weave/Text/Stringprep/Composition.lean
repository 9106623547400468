import Weave.Text.Stringprep.Table

/-! # Canonical composition

The canonical combining classes of the characters, and the pairs that compose canonically:
a starter and the character after it, and the character they compose into. Both are of
Unicode 14; normalizing by an older version of Unicode still orders and composes by them.
-/

namespace Weave.Text.Stringprep

/-- The canonical combining classes other than 0, as runs: the first and last character
of a run and its class. -/
def combiningRuns : List (Nat × Nat × Nat) := [
  (0x300, 0x314, 230), (0x315, 0x315, 232), (0x316, 0x319, 220), (0x31A, 0x31A, 232), (0x31B, 0x31B, 216),
  (0x31C, 0x320, 220), (0x321, 0x322, 202), (0x323, 0x326, 220), (0x327, 0x328, 202), (0x329, 0x333, 220),
  (0x334, 0x338, 1), (0x339, 0x33C, 220), (0x33D, 0x344, 230), (0x345, 0x345, 240), (0x346, 0x346, 230),
  (0x347, 0x349, 220), (0x34A, 0x34C, 230), (0x34D, 0x34E, 220), (0x350, 0x352, 230), (0x353, 0x356, 220),
  (0x357, 0x357, 230), (0x358, 0x358, 232), (0x359, 0x35A, 220), (0x35B, 0x35B, 230), (0x35C, 0x35C, 233),
  (0x35D, 0x35E, 234), (0x35F, 0x35F, 233), (0x360, 0x361, 234), (0x362, 0x362, 233), (0x363, 0x36F, 230),
  (0x483, 0x487, 230), (0x591, 0x591, 220), (0x592, 0x595, 230), (0x596, 0x596, 220), (0x597, 0x599, 230),
  (0x59A, 0x59A, 222), (0x59B, 0x59B, 220), (0x59C, 0x5A1, 230), (0x5A2, 0x5A7, 220), (0x5A8, 0x5A9, 230),
  (0x5AA, 0x5AA, 220), (0x5AB, 0x5AC, 230), (0x5AD, 0x5AD, 222), (0x5AE, 0x5AE, 228), (0x5AF, 0x5AF, 230),
  (0x5B0, 0x5B0, 10), (0x5B1, 0x5B1, 11), (0x5B2, 0x5B2, 12), (0x5B3, 0x5B3, 13), (0x5B4, 0x5B4, 14),
  (0x5B5, 0x5B5, 15), (0x5B6, 0x5B6, 16), (0x5B7, 0x5B7, 17), (0x5B8, 0x5B8, 18), (0x5B9, 0x5BA, 19),
  (0x5BB, 0x5BB, 20), (0x5BC, 0x5BC, 21), (0x5BD, 0x5BD, 22), (0x5BF, 0x5BF, 23), (0x5C1, 0x5C1, 24),
  (0x5C2, 0x5C2, 25), (0x5C4, 0x5C4, 230), (0x5C5, 0x5C5, 220), (0x5C7, 0x5C7, 18), (0x610, 0x617, 230),
  (0x618, 0x618, 30), (0x619, 0x619, 31), (0x61A, 0x61A, 32), (0x64B, 0x64B, 27), (0x64C, 0x64C, 28),
  (0x64D, 0x64D, 29), (0x64E, 0x64E, 30), (0x64F, 0x64F, 31), (0x650, 0x650, 32), (0x651, 0x651, 33),
  (0x652, 0x652, 34), (0x653, 0x654, 230), (0x655, 0x656, 220), (0x657, 0x65B, 230), (0x65C, 0x65C, 220),
  (0x65D, 0x65E, 230), (0x65F, 0x65F, 220), (0x670, 0x670, 35), (0x6D6, 0x6DC, 230), (0x6DF, 0x6E2, 230),
  (0x6E3, 0x6E3, 220), (0x6E4, 0x6E4, 230), (0x6E7, 0x6E8, 230), (0x6EA, 0x6EA, 220), (0x6EB, 0x6EC, 230),
  (0x6ED, 0x6ED, 220), (0x711, 0x711, 36), (0x730, 0x730, 230), (0x731, 0x731, 220), (0x732, 0x733, 230),
  (0x734, 0x734, 220), (0x735, 0x736, 230), (0x737, 0x739, 220), (0x73A, 0x73A, 230), (0x73B, 0x73C, 220),
  (0x73D, 0x73D, 230), (0x73E, 0x73E, 220), (0x73F, 0x741, 230), (0x742, 0x742, 220), (0x743, 0x743, 230),
  (0x744, 0x744, 220), (0x745, 0x745, 230), (0x746, 0x746, 220), (0x747, 0x747, 230), (0x748, 0x748, 220),
  (0x749, 0x74A, 230), (0x7EB, 0x7F1, 230), (0x7F2, 0x7F2, 220), (0x7F3, 0x7F3, 230), (0x7FD, 0x7FD, 220),
  (0x816, 0x819, 230), (0x81B, 0x823, 230), (0x825, 0x827, 230), (0x829, 0x82D, 230), (0x859, 0x85B, 220),
  (0x898, 0x898, 230), (0x899, 0x89B, 220), (0x89C, 0x89F, 230), (0x8CA, 0x8CE, 230), (0x8CF, 0x8D3, 220),
  (0x8D4, 0x8E1, 230), (0x8E3, 0x8E3, 220), (0x8E4, 0x8E5, 230), (0x8E6, 0x8E6, 220), (0x8E7, 0x8E8, 230),
  (0x8E9, 0x8E9, 220), (0x8EA, 0x8EC, 230), (0x8ED, 0x8EF, 220), (0x8F0, 0x8F0, 27), (0x8F1, 0x8F1, 28),
  (0x8F2, 0x8F2, 29), (0x8F3, 0x8F5, 230), (0x8F6, 0x8F6, 220), (0x8F7, 0x8F8, 230), (0x8F9, 0x8FA, 220),
  (0x8FB, 0x8FF, 230), (0x93C, 0x93C, 7), (0x94D, 0x94D, 9), (0x951, 0x951, 230), (0x952, 0x952, 220),
  (0x953, 0x954, 230), (0x9BC, 0x9BC, 7), (0x9CD, 0x9CD, 9), (0x9FE, 0x9FE, 230), (0xA3C, 0xA3C, 7),
  (0xA4D, 0xA4D, 9), (0xABC, 0xABC, 7), (0xACD, 0xACD, 9), (0xB3C, 0xB3C, 7), (0xB4D, 0xB4D, 9),
  (0xBCD, 0xBCD, 9), (0xC3C, 0xC3C, 7), (0xC4D, 0xC4D, 9), (0xC55, 0xC55, 84), (0xC56, 0xC56, 91),
  (0xCBC, 0xCBC, 7), (0xCCD, 0xCCD, 9), (0xD3B, 0xD3C, 9), (0xD4D, 0xD4D, 9), (0xDCA, 0xDCA, 9),
  (0xE38, 0xE39, 103), (0xE3A, 0xE3A, 9), (0xE48, 0xE4B, 107), (0xEB8, 0xEB9, 118), (0xEBA, 0xEBA, 9),
  (0xEC8, 0xECB, 122), (0xF18, 0xF19, 220), (0xF35, 0xF35, 220), (0xF37, 0xF37, 220), (0xF39, 0xF39, 216),
  (0xF71, 0xF71, 129), (0xF72, 0xF72, 130), (0xF74, 0xF74, 132), (0xF7A, 0xF7D, 130), (0xF80, 0xF80, 130),
  (0xF82, 0xF83, 230), (0xF84, 0xF84, 9), (0xF86, 0xF87, 230), (0xFC6, 0xFC6, 220), (0x1037, 0x1037, 7),
  (0x1039, 0x103A, 9), (0x108D, 0x108D, 220), (0x135D, 0x135F, 230), (0x1714, 0x1715, 9), (0x1734, 0x1734, 9),
  (0x17D2, 0x17D2, 9), (0x17DD, 0x17DD, 230), (0x18A9, 0x18A9, 228), (0x1939, 0x1939, 222), (0x193A, 0x193A, 230),
  (0x193B, 0x193B, 220), (0x1A17, 0x1A17, 230), (0x1A18, 0x1A18, 220), (0x1A60, 0x1A60, 9), (0x1A75, 0x1A7C, 230),
  (0x1A7F, 0x1A7F, 220), (0x1AB0, 0x1AB4, 230), (0x1AB5, 0x1ABA, 220), (0x1ABB, 0x1ABC, 230), (0x1ABD, 0x1ABD, 220),
  (0x1ABF, 0x1AC0, 220), (0x1AC1, 0x1AC2, 230), (0x1AC3, 0x1AC4, 220), (0x1AC5, 0x1AC9, 230), (0x1ACA, 0x1ACA, 220),
  (0x1ACB, 0x1ACE, 230), (0x1B34, 0x1B34, 7), (0x1B44, 0x1B44, 9), (0x1B6B, 0x1B6B, 230), (0x1B6C, 0x1B6C, 220),
  (0x1B6D, 0x1B73, 230), (0x1BAA, 0x1BAB, 9), (0x1BE6, 0x1BE6, 7), (0x1BF2, 0x1BF3, 9), (0x1C37, 0x1C37, 7),
  (0x1CD0, 0x1CD2, 230), (0x1CD4, 0x1CD4, 1), (0x1CD5, 0x1CD9, 220), (0x1CDA, 0x1CDB, 230), (0x1CDC, 0x1CDF, 220),
  (0x1CE0, 0x1CE0, 230), (0x1CE2, 0x1CE8, 1), (0x1CED, 0x1CED, 220), (0x1CF4, 0x1CF4, 230), (0x1CF8, 0x1CF9, 230),
  (0x1DC0, 0x1DC1, 230), (0x1DC2, 0x1DC2, 220), (0x1DC3, 0x1DC9, 230), (0x1DCA, 0x1DCA, 220), (0x1DCB, 0x1DCC, 230),
  (0x1DCD, 0x1DCD, 234), (0x1DCE, 0x1DCE, 214), (0x1DCF, 0x1DCF, 220), (0x1DD0, 0x1DD0, 202), (0x1DD1, 0x1DF5, 230),
  (0x1DF6, 0x1DF6, 232), (0x1DF7, 0x1DF8, 228), (0x1DF9, 0x1DF9, 220), (0x1DFA, 0x1DFA, 218), (0x1DFB, 0x1DFB, 230),
  (0x1DFC, 0x1DFC, 233), (0x1DFD, 0x1DFD, 220), (0x1DFE, 0x1DFE, 230), (0x1DFF, 0x1DFF, 220), (0x20D0, 0x20D1, 230),
  (0x20D2, 0x20D3, 1), (0x20D4, 0x20D7, 230), (0x20D8, 0x20DA, 1), (0x20DB, 0x20DC, 230), (0x20E1, 0x20E1, 230),
  (0x20E5, 0x20E6, 1), (0x20E7, 0x20E7, 230), (0x20E8, 0x20E8, 220), (0x20E9, 0x20E9, 230), (0x20EA, 0x20EB, 1),
  (0x20EC, 0x20EF, 220), (0x20F0, 0x20F0, 230), (0x2CEF, 0x2CF1, 230), (0x2D7F, 0x2D7F, 9), (0x2DE0, 0x2DFF, 230),
  (0x302A, 0x302A, 218), (0x302B, 0x302B, 228), (0x302C, 0x302C, 232), (0x302D, 0x302D, 222), (0x302E, 0x302F, 224),
  (0x3099, 0x309A, 8), (0xA66F, 0xA66F, 230), (0xA674, 0xA67D, 230), (0xA69E, 0xA69F, 230), (0xA6F0, 0xA6F1, 230),
  (0xA806, 0xA806, 9), (0xA82C, 0xA82C, 9), (0xA8C4, 0xA8C4, 9), (0xA8E0, 0xA8F1, 230), (0xA92B, 0xA92D, 220),
  (0xA953, 0xA953, 9), (0xA9B3, 0xA9B3, 7), (0xA9C0, 0xA9C0, 9), (0xAAB0, 0xAAB0, 230), (0xAAB2, 0xAAB3, 230),
  (0xAAB4, 0xAAB4, 220), (0xAAB7, 0xAAB8, 230), (0xAABE, 0xAABF, 230), (0xAAC1, 0xAAC1, 230), (0xAAF6, 0xAAF6, 9),
  (0xABED, 0xABED, 9), (0xFB1E, 0xFB1E, 26), (0xFE20, 0xFE26, 230), (0xFE27, 0xFE2D, 220), (0xFE2E, 0xFE2F, 230),
  (0x101FD, 0x101FD, 220), (0x102E0, 0x102E0, 220), (0x10376, 0x1037A, 230), (0x10A0D, 0x10A0D, 220), (0x10A0F, 0x10A0F, 230),
  (0x10A38, 0x10A38, 230), (0x10A39, 0x10A39, 1), (0x10A3A, 0x10A3A, 220), (0x10A3F, 0x10A3F, 9), (0x10AE5, 0x10AE5, 230),
  (0x10AE6, 0x10AE6, 220), (0x10D24, 0x10D27, 230), (0x10EAB, 0x10EAC, 230), (0x10F46, 0x10F47, 220), (0x10F48, 0x10F4A, 230),
  (0x10F4B, 0x10F4B, 220), (0x10F4C, 0x10F4C, 230), (0x10F4D, 0x10F50, 220), (0x10F82, 0x10F82, 230), (0x10F83, 0x10F83, 220),
  (0x10F84, 0x10F84, 230), (0x10F85, 0x10F85, 220), (0x11046, 0x11046, 9), (0x11070, 0x11070, 9), (0x1107F, 0x1107F, 9),
  (0x110B9, 0x110B9, 9), (0x110BA, 0x110BA, 7), (0x11100, 0x11102, 230), (0x11133, 0x11134, 9), (0x11173, 0x11173, 7),
  (0x111C0, 0x111C0, 9), (0x111CA, 0x111CA, 7), (0x11235, 0x11235, 9), (0x11236, 0x11236, 7), (0x112E9, 0x112E9, 7),
  (0x112EA, 0x112EA, 9), (0x1133B, 0x1133C, 7), (0x1134D, 0x1134D, 9), (0x11366, 0x1136C, 230), (0x11370, 0x11374, 230),
  (0x11442, 0x11442, 9), (0x11446, 0x11446, 7), (0x1145E, 0x1145E, 230), (0x114C2, 0x114C2, 9), (0x114C3, 0x114C3, 7),
  (0x115BF, 0x115BF, 9), (0x115C0, 0x115C0, 7), (0x1163F, 0x1163F, 9), (0x116B6, 0x116B6, 9), (0x116B7, 0x116B7, 7),
  (0x1172B, 0x1172B, 9), (0x11839, 0x11839, 9), (0x1183A, 0x1183A, 7), (0x1193D, 0x1193E, 9), (0x11943, 0x11943, 7),
  (0x119E0, 0x119E0, 9), (0x11A34, 0x11A34, 9), (0x11A47, 0x11A47, 9), (0x11A99, 0x11A99, 9), (0x11C3F, 0x11C3F, 9),
  (0x11D42, 0x11D42, 7), (0x11D44, 0x11D45, 9), (0x11D97, 0x11D97, 9), (0x16AF0, 0x16AF4, 1), (0x16B30, 0x16B36, 230),
  (0x16FF0, 0x16FF1, 6), (0x1BC9E, 0x1BC9E, 1), (0x1D165, 0x1D166, 216), (0x1D167, 0x1D169, 1), (0x1D16D, 0x1D16D, 226),
  (0x1D16E, 0x1D172, 216), (0x1D17B, 0x1D182, 220), (0x1D185, 0x1D189, 230), (0x1D18A, 0x1D18B, 220), (0x1D1AA, 0x1D1AD, 230),
  (0x1D242, 0x1D244, 230), (0x1E000, 0x1E006, 230), (0x1E008, 0x1E018, 230), (0x1E01B, 0x1E021, 230), (0x1E023, 0x1E024, 230),
  (0x1E026, 0x1E02A, 230), (0x1E130, 0x1E136, 230), (0x1E2AE, 0x1E2AE, 230), (0x1E2EC, 0x1E2EF, 230), (0x1E8D0, 0x1E8D6, 220),
  (0x1E944, 0x1E949, 230), (0x1E94A, 0x1E94A, 7)]

/-- The pairs that compose, each three characters: the first, the second and their composition. -/
def compositionText : String := String.join [
  "<\u0338≮=\u0338≠>\u0338≯A\u0300ÀA\u0301ÁA\u0302ÂA\u0303ÃA\u0304ĀA\u0306ĂA\u0307ȦA\u0308ÄA\u0309ẢA\u030AÅA\u030CǍA\u030FȀA\u0311Ȃ",
  "A\u0323ẠA\u0325ḀA\u0328ĄB\u0307ḂB\u0323ḄB\u0331ḆC\u0301ĆC\u0302ĈC\u0307ĊC\u030CČC\u0327ÇD\u0307ḊD\u030CĎD\u0323ḌD\u0327ḐD\u032DḒ",
  "D\u0331ḎE\u0300ÈE\u0301ÉE\u0302ÊE\u0303ẼE\u0304ĒE\u0306ĔE\u0307ĖE\u0308ËE\u0309ẺE\u030CĚE\u030FȄE\u0311ȆE\u0323ẸE\u0327ȨE\u0328Ę",
  "E\u032DḘE\u0330ḚF\u0307ḞG\u0301ǴG\u0302ĜG\u0304ḠG\u0306ĞG\u0307ĠG\u030CǦG\u0327ĢH\u0302ĤH\u0307ḢH\u0308ḦH\u030CȞH\u0323ḤH\u0327Ḩ",
  "H\u032EḪI\u0300ÌI\u0301ÍI\u0302ÎI\u0303ĨI\u0304ĪI\u0306ĬI\u0307İI\u0308ÏI\u0309ỈI\u030CǏI\u030FȈI\u0311ȊI\u0323ỊI\u0328ĮI\u0330Ḭ",
  "J\u0302ĴK\u0301ḰK\u030CǨK\u0323ḲK\u0327ĶK\u0331ḴL\u0301ĹL\u030CĽL\u0323ḶL\u0327ĻL\u032DḼL\u0331ḺM\u0301ḾM\u0307ṀM\u0323ṂN\u0300Ǹ",
  "N\u0301ŃN\u0303ÑN\u0307ṄN\u030CŇN\u0323ṆN\u0327ŅN\u032DṊN\u0331ṈO\u0300ÒO\u0301ÓO\u0302ÔO\u0303ÕO\u0304ŌO\u0306ŎO\u0307ȮO\u0308Ö",
  "O\u0309ỎO\u030BŐO\u030CǑO\u030FȌO\u0311ȎO\u031BƠO\u0323ỌO\u0328ǪP\u0301ṔP\u0307ṖR\u0301ŔR\u0307ṘR\u030CŘR\u030FȐR\u0311ȒR\u0323Ṛ",
  "R\u0327ŖR\u0331ṞS\u0301ŚS\u0302ŜS\u0307ṠS\u030CŠS\u0323ṢS\u0326ȘS\u0327ŞT\u0307ṪT\u030CŤT\u0323ṬT\u0326ȚT\u0327ŢT\u032DṰT\u0331Ṯ",
  "U\u0300ÙU\u0301ÚU\u0302ÛU\u0303ŨU\u0304ŪU\u0306ŬU\u0308ÜU\u0309ỦU\u030AŮU\u030BŰU\u030CǓU\u030FȔU\u0311ȖU\u031BƯU\u0323ỤU\u0324Ṳ",
  "U\u0328ŲU\u032DṶU\u0330ṴV\u0303ṼV\u0323ṾW\u0300ẀW\u0301ẂW\u0302ŴW\u0307ẆW\u0308ẄW\u0323ẈX\u0307ẊX\u0308ẌY\u0300ỲY\u0301ÝY\u0302Ŷ",
  "Y\u0303ỸY\u0304ȲY\u0307ẎY\u0308ŸY\u0309ỶY\u0323ỴZ\u0301ŹZ\u0302ẐZ\u0307ŻZ\u030CŽZ\u0323ẒZ\u0331Ẕa\u0300àa\u0301áa\u0302âa\u0303ã",
  "a\u0304āa\u0306ăa\u0307ȧa\u0308äa\u0309ảa\u030Aåa\u030Cǎa\u030Fȁa\u0311ȃa\u0323ạa\u0325ḁa\u0328ąb\u0307ḃb\u0323ḅb\u0331ḇc\u0301ć",
  "c\u0302ĉc\u0307ċc\u030Cčc\u0327çd\u0307ḋd\u030Cďd\u0323ḍd\u0327ḑd\u032Dḓd\u0331ḏe\u0300èe\u0301ée\u0302êe\u0303ẽe\u0304ēe\u0306ĕ",
  "e\u0307ėe\u0308ëe\u0309ẻe\u030Cěe\u030Fȅe\u0311ȇe\u0323ẹe\u0327ȩe\u0328ęe\u032Dḙe\u0330ḛf\u0307ḟg\u0301ǵg\u0302ĝg\u0304ḡg\u0306ğ",
  "g\u0307ġg\u030Cǧg\u0327ģh\u0302ĥh\u0307ḣh\u0308ḧh\u030Cȟh\u0323ḥh\u0327ḩh\u032Eḫh\u0331ẖi\u0300ìi\u0301íi\u0302îi\u0303ĩi\u0304ī",
  "i\u0306ĭi\u0308ïi\u0309ỉi\u030Cǐi\u030Fȉi\u0311ȋi\u0323ịi\u0328įi\u0330ḭj\u0302ĵj\u030Cǰk\u0301ḱk\u030Cǩk\u0323ḳk\u0327ķk\u0331ḵ",
  "l\u0301ĺl\u030Cľl\u0323ḷl\u0327ļl\u032Dḽl\u0331ḻm\u0301ḿm\u0307ṁm\u0323ṃn\u0300ǹn\u0301ńn\u0303ñn\u0307ṅn\u030Cňn\u0323ṇn\u0327ņ",
  "n\u032Dṋn\u0331ṉo\u0300òo\u0301óo\u0302ôo\u0303õo\u0304ōo\u0306ŏo\u0307ȯo\u0308öo\u0309ỏo\u030Bőo\u030Cǒo\u030Fȍo\u0311ȏo\u031Bơ",
  "o\u0323ọo\u0328ǫp\u0301ṕp\u0307ṗr\u0301ŕr\u0307ṙr\u030Cřr\u030Fȑr\u0311ȓr\u0323ṛr\u0327ŗr\u0331ṟs\u0301śs\u0302ŝs\u0307ṡs\u030Cš",
  "s\u0323ṣs\u0326șs\u0327şt\u0307ṫt\u0308ẗt\u030Cťt\u0323ṭt\u0326țt\u0327ţt\u032Dṱt\u0331ṯu\u0300ùu\u0301úu\u0302ûu\u0303ũu\u0304ū",
  "u\u0306ŭu\u0308üu\u0309ủu\u030Aůu\u030Bűu\u030Cǔu\u030Fȕu\u0311ȗu\u031Bưu\u0323ụu\u0324ṳu\u0328ųu\u032Dṷu\u0330ṵv\u0303ṽv\u0323ṿ",
  "w\u0300ẁw\u0301ẃw\u0302ŵw\u0307ẇw\u0308ẅw\u030Aẘw\u0323ẉx\u0307ẋx\u0308ẍy\u0300ỳy\u0301ýy\u0302ŷy\u0303ỹy\u0304ȳy\u0307ẏy\u0308ÿ",
  "y\u0309ỷy\u030Aẙy\u0323ỵz\u0301źz\u0302ẑz\u0307żz\u030Cžz\u0323ẓz\u0331ẕ¨\u0300῭¨\u0301΅¨\u0342῁Â\u0300ẦÂ\u0301ẤÂ\u0303ẪÂ\u0309Ẩ",
  "Ä\u0304ǞÅ\u0301ǺÆ\u0301ǼÆ\u0304ǢÇ\u0301ḈÊ\u0300ỀÊ\u0301ẾÊ\u0303ỄÊ\u0309ỂÏ\u0301ḮÔ\u0300ỒÔ\u0301ỐÔ\u0303ỖÔ\u0309ỔÕ\u0301ṌÕ\u0304Ȭ",
  "Õ\u0308ṎÖ\u0304ȪØ\u0301ǾÜ\u0300ǛÜ\u0301ǗÜ\u0304ǕÜ\u030CǙâ\u0300ầâ\u0301ấâ\u0303ẫâ\u0309ẩä\u0304ǟå\u0301ǻæ\u0301ǽæ\u0304ǣç\u0301ḉ",
  "ê\u0300ềê\u0301ếê\u0303ễê\u0309ểï\u0301ḯô\u0300ồô\u0301ốô\u0303ỗô\u0309ổõ\u0301ṍõ\u0304ȭõ\u0308ṏö\u0304ȫø\u0301ǿü\u0300ǜü\u0301ǘ",
  "ü\u0304ǖü\u030CǚĂ\u0300ẰĂ\u0301ẮĂ\u0303ẴĂ\u0309Ẳă\u0300ằă\u0301ắă\u0303ẵă\u0309ẳĒ\u0300ḔĒ\u0301Ḗē\u0300ḕē\u0301ḗŌ\u0300ṐŌ\u0301Ṓ",
  "ō\u0300ṑō\u0301ṓŚ\u0307Ṥś\u0307ṥŠ\u0307Ṧš\u0307ṧŨ\u0301Ṹũ\u0301ṹŪ\u0308Ṻū\u0308ṻſ\u0307ẛƠ\u0300ỜƠ\u0301ỚƠ\u0303ỠƠ\u0309ỞƠ\u0323Ợ",
  "ơ\u0300ờơ\u0301ớơ\u0303ỡơ\u0309ởơ\u0323ợƯ\u0300ỪƯ\u0301ỨƯ\u0303ỮƯ\u0309ỬƯ\u0323Ựư\u0300ừư\u0301ứư\u0303ữư\u0309ửư\u0323ựƷ\u030CǮ",
  "Ǫ\u0304Ǭǫ\u0304ǭȦ\u0304Ǡȧ\u0304ǡȨ\u0306Ḝȩ\u0306ḝȮ\u0304Ȱȯ\u0304ȱʒ\u030CǯΑ\u0300ᾺΑ\u0301ΆΑ\u0304ᾹΑ\u0306ᾸΑ\u0313ἈΑ\u0314ἉΑ\u0345ᾼ",
  "Ε\u0300ῈΕ\u0301ΈΕ\u0313ἘΕ\u0314ἙΗ\u0300ῊΗ\u0301ΉΗ\u0313ἨΗ\u0314ἩΗ\u0345ῌΙ\u0300ῚΙ\u0301ΊΙ\u0304ῙΙ\u0306ῘΙ\u0308ΪΙ\u0313ἸΙ\u0314Ἱ",
  "Ο\u0300ῸΟ\u0301ΌΟ\u0313ὈΟ\u0314ὉΡ\u0314ῬΥ\u0300ῪΥ\u0301ΎΥ\u0304ῩΥ\u0306ῨΥ\u0308ΫΥ\u0314ὙΩ\u0300ῺΩ\u0301ΏΩ\u0313ὨΩ\u0314ὩΩ\u0345ῼ",
  "ά\u0345ᾴή\u0345ῄα\u0300ὰα\u0301άα\u0304ᾱα\u0306ᾰα\u0313ἀα\u0314ἁα\u0342ᾶα\u0345ᾳε\u0300ὲε\u0301έε\u0313ἐε\u0314ἑη\u0300ὴη\u0301ή",
  "η\u0313ἠη\u0314ἡη\u0342ῆη\u0345ῃι\u0300ὶι\u0301ίι\u0304ῑι\u0306ῐι\u0308ϊι\u0313ἰι\u0314ἱι\u0342ῖο\u0300ὸο\u0301όο\u0313ὀο\u0314ὁ",
  "ρ\u0313ῤρ\u0314ῥυ\u0300ὺυ\u0301ύυ\u0304ῡυ\u0306ῠυ\u0308ϋυ\u0313ὐυ\u0314ὑυ\u0342ῦω\u0300ὼω\u0301ώω\u0313ὠω\u0314ὡω\u0342ῶω\u0345ῳ",
  "ϊ\u0300ῒϊ\u0301ΐϊ\u0342ῗϋ\u0300ῢϋ\u0301ΰϋ\u0342ῧώ\u0345ῴϒ\u0301ϓϒ\u0308ϔІ\u0308ЇА\u0306ӐА\u0308ӒГ\u0301ЃЕ\u0300ЀЕ\u0306ӖЕ\u0308Ё",
  "Ж\u0306ӁЖ\u0308ӜЗ\u0308ӞИ\u0300ЍИ\u0304ӢИ\u0306ЙИ\u0308ӤК\u0301ЌО\u0308ӦУ\u0304ӮУ\u0306ЎУ\u0308ӰУ\u030BӲЧ\u0308ӴЫ\u0308ӸЭ\u0308Ӭ",
  "а\u0306ӑа\u0308ӓг\u0301ѓе\u0300ѐе\u0306ӗе\u0308ёж\u0306ӂж\u0308ӝз\u0308ӟи\u0300ѝи\u0304ӣи\u0306йи\u0308ӥк\u0301ќо\u0308ӧу\u0304ӯ",
  "у\u0306ўу\u0308ӱу\u030Bӳч\u0308ӵы\u0308ӹэ\u0308ӭі\u0308їѴ\u030FѶѵ\u030FѷӘ\u0308Ӛә\u0308ӛӨ\u0308Ӫө\u0308ӫا\u0653آا\u0654أا\u0655إ",
  "و\u0654ؤي\u0654ئہ\u0654ۂے\u0654ۓە\u0654ۀन\u093Cऩर\u093Cऱळ\u093Cऴ\u09C7\u09BE\u09CB\u09C7\u09D7\u09CC\u0B47\u0B3E\u0B4B\u0B47\u0B56\u0B48\u0B47\u0B57\u0B4Cஒ\u0BD7ஔ\u0BC6\u0BBE\u0BCA\u0BC6\u0BD7\u0BCC",
  "\u0BC7\u0BBE\u0BCB\u0C46\u0C56\u0C48\u0CBF\u0CD5\u0CC0\u0CC6\u0CC2\u0CCA\u0CC6\u0CD5\u0CC7\u0CC6\u0CD6\u0CC8\u0CCA\u0CD5\u0CCB\u0D46\u0D3E\u0D4A\u0D46\u0D57\u0D4C\u0D47\u0D3E\u0D4B\u0DD9\u0DCA\u0DDA\u0DD9\u0DCF\u0DDC\u0DD9\u0DDF\u0DDE\u0DDC\u0DCA\u0DDDဥ\u102Eဦᬅ\u1B35ᬆ",
  "ᬇ\u1B35ᬈᬉ\u1B35ᬊᬋ\u1B35ᬌᬍ\u1B35ᬎᬑ\u1B35ᬒ\u1B3A\u1B35\u1B3B\u1B3C\u1B35\u1B3D\u1B3E\u1B35\u1B40\u1B3F\u1B35\u1B41\u1B42\u1B35\u1B43Ḷ\u0304Ḹḷ\u0304ḹṚ\u0304Ṝṛ\u0304ṝṢ\u0307Ṩṣ\u0307ṩ",
  "Ạ\u0302ẬẠ\u0306Ặạ\u0302ậạ\u0306ặẸ\u0302Ệẹ\u0302ệỌ\u0302Ộọ\u0302ộἀ\u0300ἂἀ\u0301ἄἀ\u0342ἆἀ\u0345ᾀἁ\u0300ἃἁ\u0301ἅἁ\u0342ἇἁ\u0345ᾁ",
  "ἂ\u0345ᾂἃ\u0345ᾃἄ\u0345ᾄἅ\u0345ᾅἆ\u0345ᾆἇ\u0345ᾇἈ\u0300ἊἈ\u0301ἌἈ\u0342ἎἈ\u0345ᾈἉ\u0300ἋἉ\u0301ἍἉ\u0342ἏἉ\u0345ᾉἊ\u0345ᾊἋ\u0345ᾋ",
  "Ἄ\u0345ᾌἍ\u0345ᾍἎ\u0345ᾎἏ\u0345ᾏἐ\u0300ἒἐ\u0301ἔἑ\u0300ἓἑ\u0301ἕἘ\u0300ἚἘ\u0301ἜἙ\u0300ἛἙ\u0301Ἕἠ\u0300ἢἠ\u0301ἤἠ\u0342ἦἠ\u0345ᾐ",
  "ἡ\u0300ἣἡ\u0301ἥἡ\u0342ἧἡ\u0345ᾑἢ\u0345ᾒἣ\u0345ᾓἤ\u0345ᾔἥ\u0345ᾕἦ\u0345ᾖἧ\u0345ᾗἨ\u0300ἪἨ\u0301ἬἨ\u0342ἮἨ\u0345ᾘἩ\u0300ἫἩ\u0301Ἥ",
  "Ἡ\u0342ἯἩ\u0345ᾙἪ\u0345ᾚἫ\u0345ᾛἬ\u0345ᾜἭ\u0345ᾝἮ\u0345ᾞἯ\u0345ᾟἰ\u0300ἲἰ\u0301ἴἰ\u0342ἶἱ\u0300ἳἱ\u0301ἵἱ\u0342ἷἸ\u0300ἺἸ\u0301Ἴ",
  "Ἰ\u0342ἾἹ\u0300ἻἹ\u0301ἽἹ\u0342Ἷὀ\u0300ὂὀ\u0301ὄὁ\u0300ὃὁ\u0301ὅὈ\u0300ὊὈ\u0301ὌὉ\u0300ὋὉ\u0301Ὅὐ\u0300ὒὐ\u0301ὔὐ\u0342ὖὑ\u0300ὓ",
  "ὑ\u0301ὕὑ\u0342ὗὙ\u0300ὛὙ\u0301ὝὙ\u0342Ὗὠ\u0300ὢὠ\u0301ὤὠ\u0342ὦὠ\u0345ᾠὡ\u0300ὣὡ\u0301ὥὡ\u0342ὧὡ\u0345ᾡὢ\u0345ᾢὣ\u0345ᾣὤ\u0345ᾤ",
  "ὥ\u0345ᾥὦ\u0345ᾦὧ\u0345ᾧὨ\u0300ὪὨ\u0301ὬὨ\u0342ὮὨ\u0345ᾨὩ\u0300ὫὩ\u0301ὭὩ\u0342ὯὩ\u0345ᾩὪ\u0345ᾪὫ\u0345ᾫὬ\u0345ᾬὭ\u0345ᾭὮ\u0345ᾮ",
  "Ὧ\u0345ᾯὰ\u0345ᾲὴ\u0345ῂὼ\u0345ῲᾶ\u0345ᾷ᾿\u0300῍᾿\u0301῎᾿\u0342῏ῆ\u0345ῇῶ\u0345ῷ῾\u0300῝῾\u0301῞῾\u0342῟←\u0338↚→\u0338↛↔\u0338↮",
  "⇐\u0338⇍⇒\u0338⇏⇔\u0338⇎∃\u0338∄∈\u0338∉∋\u0338∌∣\u0338∤∥\u0338∦∼\u0338≁≃\u0338≄≅\u0338≇≈\u0338≉≍\u0338≭≡\u0338≢≤\u0338≰≥\u0338≱",
  "≲\u0338≴≳\u0338≵≶\u0338≸≷\u0338≹≺\u0338⊀≻\u0338⊁≼\u0338⋠≽\u0338⋡⊂\u0338⊄⊃\u0338⊅⊆\u0338⊈⊇\u0338⊉⊑\u0338⋢⊒\u0338⋣⊢\u0338⊬⊨\u0338⊭",
  "⊩\u0338⊮⊫\u0338⊯⊲\u0338⋪⊳\u0338⋫⊴\u0338⋬⊵\u0338⋭う\u3099ゔか\u3099がき\u3099ぎく\u3099ぐけ\u3099げこ\u3099ごさ\u3099ざし\u3099じす\u3099ずせ\u3099ぜ",
  "そ\u3099ぞた\u3099だち\u3099ぢつ\u3099づて\u3099でと\u3099どは\u3099ばは\u309Aぱひ\u3099びひ\u309Aぴふ\u3099ぶふ\u309Aぷへ\u3099べへ\u309Aぺほ\u3099ぼほ\u309Aぽ",
  "ゝ\u3099ゞウ\u3099ヴカ\u3099ガキ\u3099ギク\u3099グケ\u3099ゲコ\u3099ゴサ\u3099ザシ\u3099ジス\u3099ズセ\u3099ゼソ\u3099ゾタ\u3099ダチ\u3099ヂツ\u3099ヅテ\u3099デ",
  "ト\u3099ドハ\u3099バハ\u309Aパヒ\u3099ビヒ\u309Aピフ\u3099ブフ\u309Aプヘ\u3099ベヘ\u309Aペホ\u3099ボホ\u309Aポワ\u3099ヷヰ\u3099ヸヱ\u3099ヹヲ\u3099ヺヽ\u3099ヾ",
  "𑂚𑂚𑂜𑂜𑂫𑂫𑄮𑄮𑄯𑄯𑍋𑍋𑍌𑍌𑒼𑒼𑒻𑒻𑒾𑒾𑖺𑖺𑖻𑖻𑤸𑤸"]

def compositions : PairTable := .ofTriples compositionText

end Weave.Text.Stringprep
