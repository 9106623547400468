/-! # Single-byte code pages

A code page gives each byte one character. A page lists the characters of the bytes 0x80
to 0xFF in order, U+FFFE marking a byte it leaves undefined; the bytes below 0x80 are
ASCII, except in the EBCDIC pages and DOS Arabic, which list them too. The pages are the
Windows, ISO 8859, KOI8, Mac, DOS and EBCDIC pages and a few more, as their Unicode
mapping tables give them; each is known by its folded names.
-/

namespace Weave

/-- A single-byte code page: its folded names, the characters of the bytes below 0x80
when they are not ASCII, and those of the bytes 0x80 to 0xFF, U+FFFE where a byte is
undefined. -/
structure CodePage where
  names : List String
  lower : Option String := none
  upper : String
deriving DecidableEq, Repr

namespace CodePage

def charOf (lower : Option (Array Char)) (upper : Array Char) (b : UInt8) : Option Char :=
  let defined (c : Char) : Option Char := if c == '\uFFFE' then none else some c
  if b < 0x80 then
    match lower with
    | none => some (Char.ofNat b.toNat)
    | some half => half[b.toNat]?.bind defined
  else upper[b.toNat - 0x80]?.bind defined

def cp1250 : CodePage where
  names := ["cp1250", "1250", "windows_1250"]
  upper :=
    "€\uFFFE‚\uFFFE„…†‡\uFFFE‰Š‹ŚŤŽŹ\uFFFE‘’“”•–—\uFFFE™š›śťžź\u00A0ˇ\u02D8Ł¤Ą¦§\u00A8©Ş«" ++
    "¬\u00AD®Ż°±\u02DBł\u00B4µ¶·\u00B8ąş»Ľ\u02DDľżŔÁÂĂÄĹĆÇČÉĘËĚÍÎĎĐŃŇÓÔŐÖ×ŘŮÚŰÜÝŢßŕáâăäĺć" ++
    "çčéęëěíîďđńňóôőö÷řůúűüýţ\u02D9"

def cp1251 : CodePage where
  names := ["cp1251", "1251", "windows_1251"]
  upper :=
    "ЂЃ‚ѓ„…†‡€‰Љ‹ЊЌЋЏђ‘’“”•–—\uFFFE™љ›њќћџ\u00A0ЎўЈ¤Ґ¦§Ё©Є«¬\u00AD®Ї°±Ііґµ¶·ё№є»јЅѕїАБВГД" ++
    "ЕЖЗИЙКЛМНОПРСТУФХЦЧШЩЪЫЬЭЮЯабвгдежзийклмнопрстуфхцчшщъыьэюя"

def cp1252 : CodePage where
  names := ["cp1252", "1252", "windows_1252"]
  upper :=
    "€\uFFFE‚ƒ„…†‡ˆ‰Š‹Œ\uFFFEŽ\uFFFE\uFFFE‘’“”•–—\u02DC™š›œ\uFFFEžŸ\u00A0¡¢£¤¥¦§\u00A8©ª«" ++
    "¬\u00AD®\u00AF°±²³\u00B4µ¶·\u00B8¹º»¼½¾¿ÀÁÂÃÄÅÆÇÈÉÊËÌÍÎÏÐÑÒÓÔÕÖ×ØÙÚÛÜÝÞßàáâãäåæçèéêë" ++
    "ìíîïðñòóôõö÷øùúûüýþÿ"

def cp1253 : CodePage where
  names := ["cp1253", "1253", "windows_1253"]
  upper :=
    "€\uFFFE‚ƒ„…†‡\uFFFE‰\uFFFE‹\uFFFE\uFFFE\uFFFE\uFFFE\uFFFE‘’“”•–—\uFFFE™\uFFFE›\uFFFE" ++
    "\uFFFE\uFFFE\uFFFE\u00A0\u0385Ά£¤¥¦§\u00A8©\uFFFE«¬\u00AD®―°±²³\u0384µ¶·ΈΉΊ»Ό½ΎΏΐΑΒΓ" ++
    "ΔΕΖΗΘΙΚΛΜΝΞΟΠΡ\uFFFEΣΤΥΦΧΨΩΪΫάέήίΰαβγδεζηθικλμνξοπρςστυφχψωϊϋόύώ\uFFFE"

def cp1254 : CodePage where
  names := ["cp1254", "1254", "windows_1254"]
  upper :=
    "€\uFFFE‚ƒ„…†‡ˆ‰Š‹Œ\uFFFE\uFFFE\uFFFE\uFFFE‘’“”•–—\u02DC™š›œ\uFFFE\uFFFEŸ\u00A0¡¢£¤¥¦" ++
    "§\u00A8©ª«¬\u00AD®\u00AF°±²³\u00B4µ¶·\u00B8¹º»¼½¾¿ÀÁÂÃÄÅÆÇÈÉÊËÌÍÎÏĞÑÒÓÔÕÖ×ØÙÚÛÜİŞßàá" ++
    "âãäåæçèéêëìíîïğñòóôõö÷øùúûüışÿ"

def cp1255 : CodePage where
  names := ["cp1255", "1255", "windows_1255"]
  upper :=
    "€\uFFFE‚ƒ„…†‡ˆ‰\uFFFE‹\uFFFE\uFFFE\uFFFE\uFFFE\uFFFE‘’“”•–—\u02DC™\uFFFE›\uFFFE" ++
    "\uFFFE\uFFFE\uFFFE\u00A0¡¢£₪¥¦§\u00A8©×«¬\u00AD®\u00AF°±²³\u00B4µ¶·\u00B8¹÷»¼½¾¿" ++
    "\u05B0\u05B1\u05B2\u05B3\u05B4\u05B5\u05B6\u05B7\u05B8\u05B9\uFFFE\u05BB\u05BC\u05BD" ++
    "־\u05BF׀\u05C1\u05C2׃װױײ׳״\uFFFE\uFFFE\uFFFE\uFFFE\uFFFE\uFFFE\uFFFEאבגדהוזחטיךכלםמן" ++
    "נסעףפץצקרשת\uFFFE\uFFFE\u200E\u200F\uFFFE"

def cp1256 : CodePage where
  names := ["cp1256", "1256", "windows_1256"]
  upper :=
    "€پ‚ƒ„…†‡ˆ‰ٹ‹Œچژڈگ‘’“”•–—ک™ڑ›œ\u200C\u200Dں\u00A0،¢£¤¥¦§\u00A8©ھ«¬\u00AD®\u00AF°±²³" ++
    "\u00B4µ¶·\u00B8¹؛»¼½¾؟ہءآأؤإئابةتثجحخدذرزسشصض×طظعغـفقكàلâمنهوçèéêëىيîï\u064B\u064C" ++
    "\u064D\u064Eô\u064F\u0650÷\u0651ù\u0652ûü\u200E\u200Fے"

def cp1257 : CodePage where
  names := ["cp1257", "1257", "windows_1257"]
  upper :=
    "€\uFFFE‚\uFFFE„…†‡\uFFFE‰\uFFFE‹\uFFFE\u00A8ˇ\u00B8\uFFFE‘’“”•–—\uFFFE™\uFFFE›\uFFFE" ++
    "\u00AF\u02DB\uFFFE\u00A0\uFFFE¢£¤\uFFFE¦§Ø©Ŗ«¬\u00AD®Æ°±²³\u00B4µ¶·ø¹ŗ»¼½¾æĄĮĀĆÄÅĘĒČ" ++
    "ÉŹĖĢĶĪĻŠŃŅÓŌÕÖ×ŲŁŚŪÜŻŽßąįāćäåęēčéźėģķīļšńņóōõö÷ųłśūüżž\u02D9"

def cp1258 : CodePage where
  names := ["cp1258", "1258", "windows_1258"]
  upper :=
    "€\uFFFE‚ƒ„…†‡ˆ‰\uFFFE‹Œ\uFFFE\uFFFE\uFFFE\uFFFE‘’“”•–—\u02DC™\uFFFE›œ\uFFFE\uFFFEŸ" ++
    "\u00A0¡¢£¤¥¦§\u00A8©ª«¬\u00AD®\u00AF°±²³\u00B4µ¶·\u00B8¹º»¼½¾¿ÀÁÂĂÄÅÆÇÈÉÊË\u0300ÍÎÏĐ" ++
    "Ñ\u0309ÓÔƠÖ×ØÙÚÛÜƯ\u0303ßàáâăäåæçèéêë\u0301íîïđñ\u0323óôơö÷øùúûüư₫ÿ"

def iso88592 : CodePage where
  names := ["iso8859_2", "csisolatin2", "iso_8859_2", "iso_8859_2_1987", "iso_ir_101", "l2",
    "latin2"]
  upper :=
    "\u0080\u0081\u0082\u0083\u0084\u0085\u0086\u0087\u0088\u0089\u008A\u008B\u008C\u008D" ++
    "\u008E\u008F\u0090\u0091\u0092\u0093\u0094\u0095\u0096\u0097\u0098\u0099\u009A\u009B" ++
    "\u009C\u009D\u009E\u009F\u00A0Ą\u02D8Ł¤ĽŚ§\u00A8ŠŞŤŹ\u00ADŽŻ°ą\u02DBł\u00B4ľśˇ\u00B8" ++
    "šşťź\u02DDžżŔÁÂĂÄĹĆÇČÉĘËĚÍÎĎĐŃŇÓÔŐÖ×ŘŮÚŰÜÝŢßŕáâăäĺćçčéęëěíîďđńňóôőö÷řůúűüýţ\u02D9"

def iso88593 : CodePage where
  names := ["iso8859_3", "csisolatin3", "iso_8859_3", "iso_8859_3_1988", "iso_ir_109", "l3",
    "latin3"]
  upper :=
    "\u0080\u0081\u0082\u0083\u0084\u0085\u0086\u0087\u0088\u0089\u008A\u008B\u008C\u008D" ++
    "\u008E\u008F\u0090\u0091\u0092\u0093\u0094\u0095\u0096\u0097\u0098\u0099\u009A\u009B" ++
    "\u009C\u009D\u009E\u009F\u00A0Ħ\u02D8£¤\uFFFEĤ§\u00A8İŞĞĴ\u00AD\uFFFEŻ°ħ²³\u00B4µĥ·" ++
    "\u00B8ışğĵ½\uFFFEżÀÁÂ\uFFFEÄĊĈÇÈÉÊËÌÍÎÏ\uFFFEÑÒÓÔĠÖ×ĜÙÚÛÜŬŜßàáâ\uFFFEäċĉçèéêëìíîï" ++
    "\uFFFEñòóôġö÷ĝùúûüŭŝ\u02D9"

def iso88594 : CodePage where
  names := ["iso8859_4", "csisolatin4", "iso_8859_4", "iso_8859_4_1988", "iso_ir_110", "l4",
    "latin4"]
  upper :=
    "\u0080\u0081\u0082\u0083\u0084\u0085\u0086\u0087\u0088\u0089\u008A\u008B\u008C\u008D" ++
    "\u008E\u008F\u0090\u0091\u0092\u0093\u0094\u0095\u0096\u0097\u0098\u0099\u009A\u009B" ++
    "\u009C\u009D\u009E\u009F\u00A0ĄĸŖ¤ĨĻ§\u00A8ŠĒĢŦ\u00ADŽ\u00AF°ą\u02DBŗ\u00B4ĩļˇ\u00B8" ++
    "šēģŧŊžŋĀÁÂÃÄÅÆĮČÉĘËĖÍÎĪĐŅŌĶÔÕÖ×ØŲÚÛÜŨŪßāáâãäåæįčéęëėíîīđņōķôõö÷øųúûüũū\u02D9"

def iso88595 : CodePage where
  names := ["iso8859_5", "csisolatincyrillic", "cyrillic", "iso_8859_5", "iso_8859_5_1988",
    "iso_ir_144"]
  upper :=
    "\u0080\u0081\u0082\u0083\u0084\u0085\u0086\u0087\u0088\u0089\u008A\u008B\u008C\u008D" ++
    "\u008E\u008F\u0090\u0091\u0092\u0093\u0094\u0095\u0096\u0097\u0098\u0099\u009A\u009B" ++
    "\u009C\u009D\u009E\u009F\u00A0ЁЂЃЄЅІЇЈЉЊЋЌ\u00ADЎЏАБВГДЕЖЗИЙКЛМНОПРСТУФХЦЧШЩЪЫЬЭЮЯаб" ++
    "вгдежзийклмнопрстуфхцчшщъыьэюя№ёђѓєѕіїјљњћќ§ўџ"

def iso88596 : CodePage where
  names := ["iso8859_6", "arabic", "asmo_708", "csisolatinarabic", "ecma_114", "iso_8859_6",
    "iso_8859_6_1987", "iso_ir_127"]
  upper :=
    "\u0080\u0081\u0082\u0083\u0084\u0085\u0086\u0087\u0088\u0089\u008A\u008B\u008C\u008D" ++
    "\u008E\u008F\u0090\u0091\u0092\u0093\u0094\u0095\u0096\u0097\u0098\u0099\u009A\u009B" ++
    "\u009C\u009D\u009E\u009F\u00A0\uFFFE\uFFFE\uFFFE¤\uFFFE\uFFFE\uFFFE\uFFFE\uFFFE" ++
    "\uFFFE\uFFFE،\u00AD\uFFFE\uFFFE\uFFFE\uFFFE\uFFFE\uFFFE\uFFFE\uFFFE\uFFFE\uFFFE" ++
    "\uFFFE\uFFFE\uFFFE؛\uFFFE\uFFFE\uFFFE؟\uFFFEءآأؤإئابةتثجحخدذرزسشصضطظعغ\uFFFE\uFFFE" ++
    "\uFFFE\uFFFE\uFFFEـفقكلمنهوىي\u064B\u064C\u064D\u064E\u064F\u0650\u0651\u0652\uFFFE" ++
    "\uFFFE\uFFFE\uFFFE\uFFFE\uFFFE\uFFFE\uFFFE\uFFFE\uFFFE\uFFFE\uFFFE\uFFFE"

def iso88597 : CodePage where
  names := ["iso8859_7", "csisolatingreek", "ecma_118", "elot_928", "greek", "greek8",
    "iso_8859_7", "iso_8859_7_1987", "iso_ir_126"]
  upper :=
    "\u0080\u0081\u0082\u0083\u0084\u0085\u0086\u0087\u0088\u0089\u008A\u008B\u008C\u008D" ++
    "\u008E\u008F\u0090\u0091\u0092\u0093\u0094\u0095\u0096\u0097\u0098\u0099\u009A\u009B" ++
    "\u009C\u009D\u009E\u009F\u00A0‘’£€₯¦§\u00A8©ͺ«¬\u00AD\uFFFE―°±²³\u0384\u0385Ά·ΈΉΊ»Ό½" ++
    "ΎΏΐΑΒΓΔΕΖΗΘΙΚΛΜΝΞΟΠΡ\uFFFEΣΤΥΦΧΨΩΪΫάέήίΰαβγδεζηθικλμνξοπρςστυφχψωϊϋόύώ\uFFFE"

def iso88598 : CodePage where
  names := ["iso8859_8", "csisolatinhebrew", "hebrew", "iso_8859_8", "iso_8859_8_1988",
    "iso_ir_138"]
  upper :=
    "\u0080\u0081\u0082\u0083\u0084\u0085\u0086\u0087\u0088\u0089\u008A\u008B\u008C\u008D" ++
    "\u008E\u008F\u0090\u0091\u0092\u0093\u0094\u0095\u0096\u0097\u0098\u0099\u009A\u009B" ++
    "\u009C\u009D\u009E\u009F\u00A0\uFFFE¢£¤¥¦§\u00A8©×«¬\u00AD®\u00AF°±²³\u00B4µ¶·\u00B8" ++
    "¹÷»¼½¾\uFFFE\uFFFE\uFFFE\uFFFE\uFFFE\uFFFE\uFFFE\uFFFE\uFFFE\uFFFE\uFFFE\uFFFE\uFFFE" ++
    "\uFFFE\uFFFE\uFFFE\uFFFE\uFFFE\uFFFE\uFFFE\uFFFE\uFFFE\uFFFE\uFFFE\uFFFE\uFFFE\uFFFE" ++
    "\uFFFE\uFFFE\uFFFE\uFFFE\uFFFE‗אבגדהוזחטיךכלםמןנסעףפץצקרשת\uFFFE\uFFFE\u200E\u200F" ++
    "\uFFFE"

def iso88599 : CodePage where
  names := ["iso8859_9", "csisolatin5", "iso_8859_9", "iso_8859_9_1989", "iso_ir_148", "l5",
    "latin5"]
  upper :=
    "\u0080\u0081\u0082\u0083\u0084\u0085\u0086\u0087\u0088\u0089\u008A\u008B\u008C\u008D" ++
    "\u008E\u008F\u0090\u0091\u0092\u0093\u0094\u0095\u0096\u0097\u0098\u0099\u009A\u009B" ++
    "\u009C\u009D\u009E\u009F\u00A0¡¢£¤¥¦§\u00A8©ª«¬\u00AD®\u00AF°±²³\u00B4µ¶·\u00B8¹º»¼½" ++
    "¾¿ÀÁÂÃÄÅÆÇÈÉÊËÌÍÎÏĞÑÒÓÔÕÖ×ØÙÚÛÜİŞßàáâãäåæçèéêëìíîïğñòóôõö÷øùúûüışÿ"

def iso885910 : CodePage where
  names := ["iso8859_10", "csisolatin6", "iso_8859_10", "iso_8859_10_1992", "iso_ir_157",
    "l6", "latin6"]
  upper :=
    "\u0080\u0081\u0082\u0083\u0084\u0085\u0086\u0087\u0088\u0089\u008A\u008B\u008C\u008D" ++
    "\u008E\u008F\u0090\u0091\u0092\u0093\u0094\u0095\u0096\u0097\u0098\u0099\u009A\u009B" ++
    "\u009C\u009D\u009E\u009F\u00A0ĄĒĢĪĨĶ§ĻĐŠŦŽ\u00ADŪŊ°ąēģīĩķ·ļđšŧž―ūŋĀÁÂÃÄÅÆĮČÉĘËĖÍÎÏÐŅ" ++
    "ŌÓÔÕÖŨØŲÚÛÜÝÞßāáâãäåæįčéęëėíîïðņōóôõöũøųúûüýþĸ"

def iso885911 : CodePage where
  names := ["iso8859_11", "iso_8859_11", "iso_8859_11_2001", "thai"]
  upper :=
    "\u0080\u0081\u0082\u0083\u0084\u0085\u0086\u0087\u0088\u0089\u008A\u008B\u008C\u008D" ++
    "\u008E\u008F\u0090\u0091\u0092\u0093\u0094\u0095\u0096\u0097\u0098\u0099\u009A\u009B" ++
    "\u009C\u009D\u009E\u009F\u00A0กขฃคฅฆงจฉชซฌญฎฏฐฑฒณดตถทธนบปผฝพฟภมยรฤลฦวศษสหฬอฮฯะ\u0E31" ++
    "าำ\u0E34\u0E35\u0E36\u0E37\u0E38\u0E39\u0E3A\uFFFE\uFFFE\uFFFE\uFFFE฿เแโใไๅๆ\u0E47" ++
    "\u0E48\u0E49\u0E4A\u0E4B\u0E4C\u0E4D\u0E4E๏๐๑๒๓๔๕๖๗๘๙๚๛\uFFFE\uFFFE\uFFFE\uFFFE"

def iso885913 : CodePage where
  names := ["iso8859_13", "iso_8859_13", "l7", "latin7"]
  upper :=
    "\u0080\u0081\u0082\u0083\u0084\u0085\u0086\u0087\u0088\u0089\u008A\u008B\u008C\u008D" ++
    "\u008E\u008F\u0090\u0091\u0092\u0093\u0094\u0095\u0096\u0097\u0098\u0099\u009A\u009B" ++
    "\u009C\u009D\u009E\u009F\u00A0”¢£¤„¦§Ø©Ŗ«¬\u00AD®Æ°±²³“µ¶·ø¹ŗ»¼½¾æĄĮĀĆÄÅĘĒČÉŹĖĢĶĪĻŠŃ" ++
    "ŅÓŌÕÖ×ŲŁŚŪÜŻŽßąįāćäåęēčéźėģķīļšńņóōõö÷ųłśūüżž’"

def iso885914 : CodePage where
  names := ["iso8859_14", "iso_8859_14", "iso_8859_14_1998", "iso_celtic", "iso_ir_199",
    "l8", "latin8"]
  upper :=
    "\u0080\u0081\u0082\u0083\u0084\u0085\u0086\u0087\u0088\u0089\u008A\u008B\u008C\u008D" ++
    "\u008E\u008F\u0090\u0091\u0092\u0093\u0094\u0095\u0096\u0097\u0098\u0099\u009A\u009B" ++
    "\u009C\u009D\u009E\u009F\u00A0Ḃḃ£ĊċḊ§Ẁ©ẂḋỲ\u00AD®ŸḞḟĠġṀṁ¶ṖẁṗẃṠỳẄẅṡÀÁÂÃÄÅÆÇÈÉÊËÌÍÎÏŴÑ" ++
    "ÒÓÔÕÖṪØÙÚÛÜÝŶßàáâãäåæçèéêëìíîïŵñòóôõöṫøùúûüýŷÿ"

def iso885915 : CodePage where
  names := ["iso8859_15", "iso_8859_15", "l9", "latin9"]
  upper :=
    "\u0080\u0081\u0082\u0083\u0084\u0085\u0086\u0087\u0088\u0089\u008A\u008B\u008C\u008D" ++
    "\u008E\u008F\u0090\u0091\u0092\u0093\u0094\u0095\u0096\u0097\u0098\u0099\u009A\u009B" ++
    "\u009C\u009D\u009E\u009F\u00A0¡¢£€¥Š§š©ª«¬\u00AD®\u00AF°±²³Žµ¶·ž¹º»ŒœŸ¿ÀÁÂÃÄÅÆÇÈÉÊËÌ" ++
    "ÍÎÏÐÑÒÓÔÕÖ×ØÙÚÛÜÝÞßàáâãäåæçèéêëìíîïðñòóôõö÷øùúûüýþÿ"

def iso885916 : CodePage where
  names := ["iso8859_16", "iso_8859_16", "iso_8859_16_2001", "iso_ir_226", "l10", "latin10"]
  upper :=
    "\u0080\u0081\u0082\u0083\u0084\u0085\u0086\u0087\u0088\u0089\u008A\u008B\u008C\u008D" ++
    "\u008E\u008F\u0090\u0091\u0092\u0093\u0094\u0095\u0096\u0097\u0098\u0099\u009A\u009B" ++
    "\u009C\u009D\u009E\u009F\u00A0ĄąŁ€„Š§š©Ș«Ź\u00ADźŻ°±ČłŽ”¶·žčș»ŒœŸżÀÁÂĂÄĆÆÇÈÉÊËÌÍÎÏĐŃ" ++
    "ÒÓÔŐÖŚŰÙÚÛÜĘȚßàáâăäćæçèéêëìíîïđńòóôőöśűùúûüęțÿ"

def koi8R : CodePage where
  names := ["koi8_r", "cskoi8r"]
  upper :=
    "─│┌┐└┘├┤┬┴┼▀▄█▌▐░▒▓⌠■∙√≈≤≥\u00A0⌡°²·÷═║╒ё╓╔╕╖╗╘╙╚╛╜╝╞╟╠╡Ё╢╣╤╥╦╧╨╩╪╫╬©юабцдефгхийклмн" ++
    "опярстужвьызшэщчъЮАБЦДЕФГХИЙКЛМНОПЯРСТУЖВЬЫЗШЭЩЧЪ"

def koi8T : CodePage where
  names := ["koi8_t"]
  upper :=
    "қғ‚Ғ„…†‡\uFFFE‰ҳ‹ҲҷҶ\uFFFEҚ‘’“”•–—\uFFFE™\uFFFE›\uFFFE\uFFFE\uFFFE\uFFFE\uFFFEӯӮё¤ӣ¦" ++
    "§\uFFFE\uFFFE\uFFFE«¬\u00AD®\uFFFE°±²Ё\uFFFEӢ¶·\uFFFE№\uFFFE»\uFFFE\uFFFE\uFFFE©юабц" ++
    "дефгхийклмнопярстужвьызшэщчъЮАБЦДЕФГХИЙКЛМНОПЯРСТУЖВЬЫЗШЭЩЧЪ"

def koi8U : CodePage where
  names := ["koi8_u"]
  upper :=
    "─│┌┐└┘├┤┬┴┼▀▄█▌▐░▒▓⌠■∙√≈≤≥\u00A0⌡°²·÷═║╒ёє╔ії╗╘╙╚╛ґ╝╞╟╠╡ЁЄ╣ІЇ╦╧╨╩╪Ґ╬©юабцдефгхийклмн" ++
    "опярстужвьызшэщчъЮАБЦДЕФГХИЙКЛМНОПЯРСТУЖВЬЫЗШЭЩЧЪ"

def kz1048 : CodePage where
  names := ["kz1048", "kz_1048", "rk1048", "strk1048_2002"]
  upper :=
    "ЂЃ‚ѓ„…†‡€‰Љ‹ЊҚҺЏђ‘’“”•–—\uFFFE™љ›њқһџ\u00A0ҰұӘ¤Ө¦§Ё©Ғ«¬\u00AD®Ү°±Ііөµ¶·ё№ғ»әҢңүАБВГД" ++
    "ЕЖЗИЙКЛМНОПРСТУФХЦЧШЩЪЫЬЭЮЯабвгдежзийклмнопрстуфхцчшщъыьэюя"

def ptcp154 : CodePage where
  names := ["ptcp154", "cp154", "csptcp154", "cyrillic_asian", "pt154"]
  upper :=
    "ҖҒӮғ„…ҶҮҲүҠӢҢҚҺҸҗ‘’“”•–—ҳҷҡӣңқһҹ\u00A0ЎўЈӨҘҰ§Ё©Ә«¬ӯ®Ҝ°ұІіҙө¶·ё№ә»јҪҫҝАБВГДЕЖЗИЙКЛМНО" ++
    "ПРСТУФХЦЧШЩЪЫЬЭЮЯабвгдежзийклмнопрстуфхцчшщъыьэюя"

def tis620 : CodePage where
  names := ["tis_620", "iso_ir_166", "tis620", "tis_620_0", "tis_620_2529_0",
    "tis_620_2529_1"]
  upper :=
    "\u0080\u0081\u0082\u0083\u0084\u0085\u0086\u0087\u0088\u0089\u008A\u008B\u008C\u008D" ++
    "\u008E\u008F\u0090\u0091\u0092\u0093\u0094\u0095\u0096\u0097\u0098\u0099\u009A\u009B" ++
    "\u009C\u009D\u009E\u009F\uFFFEกขฃคฅฆงจฉชซฌญฎฏฐฑฒณดตถทธนบปผฝพฟภมยรฤลฦวศษสหฬอฮฯะ\u0E31" ++
    "าำ\u0E34\u0E35\u0E36\u0E37\u0E38\u0E39\u0E3A\uFFFE\uFFFE\uFFFE\uFFFE฿เแโใไๅๆ\u0E47" ++
    "\u0E48\u0E49\u0E4A\u0E4B\u0E4C\u0E4D\u0E4E๏๐๑๒๓๔๕๖๗๘๙๚๛\uFFFE\uFFFE\uFFFE\uFFFE"

def cp874 : CodePage where
  names := ["cp874"]
  upper :=
    "€\uFFFE\uFFFE\uFFFE\uFFFE…\uFFFE\uFFFE\uFFFE\uFFFE\uFFFE\uFFFE\uFFFE\uFFFE\uFFFE" ++
    "\uFFFE\uFFFE‘’“”•–—\uFFFE\uFFFE\uFFFE\uFFFE\uFFFE\uFFFE\uFFFE\uFFFE\u00A0กขฃคฅฆงจฉชซ" ++
    "ฌญฎฏฐฑฒณดตถทธนบปผฝพฟภมยรฤลฦวศษสหฬอฮฯะ\u0E31าำ\u0E34\u0E35\u0E36\u0E37\u0E38\u0E39" ++
    "\u0E3A\uFFFE\uFFFE\uFFFE\uFFFE฿เแโใไๅๆ\u0E47\u0E48\u0E49\u0E4A\u0E4B\u0E4C\u0E4D" ++
    "\u0E4E๏๐๑๒๓๔๕๖๗๘๙๚๛\uFFFE\uFFFE\uFFFE\uFFFE"

def hpRoman8 : CodePage where
  names := ["hp_roman8", "cp1051", "csHPRoman8", "ibm1051", "r8", "roman8"]
  upper :=
    "\u0080\u0081\u0082\u0083\u0084\u0085\u0086\u0087\u0088\u0089\u008A\u008B\u008C\u008D" ++
    "\u008E\u008F\u0090\u0091\u0092\u0093\u0094\u0095\u0096\u0097\u0098\u0099\u009A\u009B" ++
    "\u009C\u009D\u009E\u009F\u00A0ÀÂÈÊËÎÏ\u00B4ˋˆ\u00A8\u02DCÙÛ₤\u00AFÝý°ÇçÑñ¡¿¤£¥§ƒ¢âêô" ++
    "ûáéóúàèòùäëöüÅîØÆåíøæÄìÖÜÉïßÔÁÃãÐðÍÌÓÒÕõŠšÚŸÿÞþ·µ¶¾—¼½ªº«■»±\uFFFE"

def palmos : CodePage where
  names := ["palmos"]
  upper :=
    "€\u0081‚ƒ„…†‡ˆ‰Š‹Œ♦♣♥♠‘’“”•–—\u02DC™š\u009Bœ\u009D\u009EŸ\u00A0¡¢£¤¥¦§\u00A8©ª«¬" ++
    "\u00AD®\u00AF°±²³\u00B4µ¶·\u00B8¹º»¼½¾¿ÀÁÂÃÄÅÆÇÈÉÊËÌÍÎÏÐÑÒÓÔÕÖ×ØÙÚÛÜÝÞßàáâãäåæçèéêëì" ++
    "íîïðñòóôõö÷øùúûüýþÿ"

def macRoman : CodePage where
  names := ["mac_roman", "macintosh", "macroman"]
  upper :=
    "ÄÅÇÉÑÖÜáàâäãåçéèêëíìîïñóòôöõúùûü†°¢£§•¶ß®©™\u00B4\u00A8≠ÆØ∞±≤≥¥µ∂∑∏π∫ªºΩæø¿¡¬√ƒ≈∆«»…" ++
    "\u00A0ÀÃÕŒœ–—“”‘’÷◊ÿŸ⁄€‹›ﬁﬂ‡·‚„‰ÂÊÁËÈÍÎÏÌÓÔ\uF8FFÒÚÛÙıˆ\u02DC\u00AF\u02D8\u02D9" ++
    "\u02DA\u00B8\u02DD\u02DBˇ"

def macArabic : CodePage where
  names := ["mac_arabic"]
  upper :=
    "Ä\u00A0ÇÉÑÖÜáàâäں«çéèêëí…îïñó»ôö÷úùûü !\u0022#$٪&\u0027()*+،-./٠١٢٣٤٥٦٧٨٩:؛<=>؟❊ءآأؤ" ++
    "إئابةتثجحخدذرزسشصضطظعغ[\u005C]^_ـفقكلمنهوىي\u064B\u064C\u064D\u064E\u064F\u0650" ++
    "\u0651\u0652پٹچەڤگڈڑ\u007B|\u007Dژے"

def macCroatian : CodePage where
  names := ["mac_croatian"]
  upper :=
    "ÄÅÇÉÑÖÜáàâäãåçéèêëíìîïñóòôöõúùûü†°¢£§•¶ß®Š™\u00B4\u00A8≠ŽØ∞±≤≥∆µ∂∑∏š∫ªºΩžø¿¡¬√ƒ≈Ć«Č…" ++
    "\u00A0ÀÃÕŒœĐ—“”‘’÷◊\uF8FF©⁄€‹›Æ»–·‚„‰ÂćÁčÈÍÎÏÌÓÔđÒÚÛÙıˆ\u02DC\u00AFπË\u02DA\u00B8Êæˇ"

def macCyrillic : CodePage where
  names := ["mac_cyrillic", "maccyrillic"]
  upper :=
    "АБВГДЕЖЗИЙКЛМНОПРСТУФХЦЧШЩЪЫЬЭЮЯ†°Ґ£§•¶І®©™Ђђ≠Ѓѓ∞±≤≥іµґЈЄєЇїЉљЊњјЅ¬√ƒ≈∆«»…\u00A0ЋћЌќ" ++
    "ѕ–—“”‘’÷„ЎўЏџ№Ёёяабвгдежзийклмнопрстуфхцчшщъыьэю€"

def macFarsi : CodePage where
  names := ["mac_farsi"]
  upper :=
    "Ä\u00A0ÇÉÑÖÜáàâäں«çéèêëí…îïñó»ôö÷úùûü !\u0022#$٪&\u0027()*+،-./۰۱۲۳۴۵۶۷۸۹:؛<=>؟❊ءآأؤ" ++
    "إئابةتثجحخدذرزسشصضطظعغ[\u005C]^_ـفقكلمنهوىي\u064B\u064C\u064D\u064E\u064F\u0650" ++
    "\u0651\u0652پٹچەڤگڈڑ\u007B|\u007Dژے"

def macGreek : CodePage where
  names := ["mac_greek", "macgreek"]
  upper :=
    "Ä¹²É³ÖÜ\u0385àâä\u0384\u00A8çéèêë£™îï•½‰ôö¦€ùûü†ΓΔΘΛΞΠß®©ΣΪ§≠°·Α±≤≥¥ΒΕΖΗΙΚΜΦΫΨΩάΝ¬ΟΡ" ++
    "≈Τ«»…\u00A0ΥΧΆΈœ–―“”‘’÷ΉΊΌΎέήίόΏύαβψδεφγηιξκλμνοπώρστθωςχυζϊϋΐΰ\u00AD"

def macIceland : CodePage where
  names := ["mac_iceland", "maciceland"]
  upper :=
    "ÄÅÇÉÑÖÜáàâäãåçéèêëíìîïñóòôöõúùûüÝ°¢£§•¶ß®©™\u00B4\u00A8≠ÆØ∞±≤≥¥µ∂∑∏π∫ªºΩæø¿¡¬√ƒ≈∆«»…" ++
    "\u00A0ÀÃÕŒœ–—“”‘’÷◊ÿŸ⁄€ÐðÞþý·‚„‰ÂÊÁËÈÍÎÏÌÓÔ\uF8FFÒÚÛÙıˆ\u02DC\u00AF\u02D8\u02D9" ++
    "\u02DA\u00B8\u02DD\u02DBˇ"

def macLatin2 : CodePage where
  names := ["mac_latin2", "mac_centeuro", "maccentraleurope", "maclatin2"]
  upper :=
    "ÄĀāÉĄÖÜáąČäčĆćéŹźĎíďĒēĖóėôöõúĚěü†°Ę£§•¶ß®©™ę\u00A8≠ģĮįĪ≤≥īĶ∂∑łĻļĽľĹĺŅņŃ¬√ńŇ∆«»…" ++
    "\u00A0ňŐÕőŌ–—“”‘’÷◊ōŔŕŘ‹›řŖŗŠ‚„šŚśÁŤťÍŽžŪÓÔūŮÚůŰűŲųÝýķŻŁżĢˇ"

def macRomanian : CodePage where
  names := ["mac_romanian"]
  upper :=
    "ÄÅÇÉÑÖÜáàâäãåçéèêëíìîïñóòôöõúùûü†°¢£§•¶ß®©™\u00B4\u00A8≠ĂȘ∞±≤≥¥µ∂∑∏π∫ªºΩăș¿¡¬√ƒ≈∆«»…" ++
    "\u00A0ÀÃÕŒœ–—“”‘’÷◊ÿŸ⁄€‹›Țț‡·‚„‰ÂÊÁËÈÍÎÏÌÓÔ\uF8FFÒÚÛÙıˆ\u02DC\u00AF\u02D8\u02D9" ++
    "\u02DA\u00B8\u02DD\u02DBˇ"

def macTurkish : CodePage where
  names := ["mac_turkish", "macturkish"]
  upper :=
    "ÄÅÇÉÑÖÜáàâäãåçéèêëíìîïñóòôöõúùûü†°¢£§•¶ß®©™\u00B4\u00A8≠ÆØ∞±≤≥¥µ∂∑∏π∫ªºΩæø¿¡¬√ƒ≈∆«»…" ++
    "\u00A0ÀÃÕŒœ–—“”‘’÷◊ÿŸĞğİıŞş‡·‚„‰ÂÊÁËÈÍÎÏÌÓÔ\uF8FFÒÚÛÙ\uF8A0ˆ\u02DC\u00AF\u02D8\u02D9" ++
    "\u02DA\u00B8\u02DD\u02DBˇ"

def cp437 : CodePage where
  names := ["cp437", "437", "cspc8codepage437", "ibm437"]
  upper :=
    "ÇüéâäàåçêëèïîìÄÅÉæÆôöòûùÿÖÜ¢£¥₧ƒáíóúñÑªº¿⌐¬½¼¡«»░▒▓│┤╡╢╖╕╣║╗╝╜╛┐└┴┬├─┼╞╟╚╔╩╦╠═╬╧╨╤╥╙" ++
    "╘╒╓╫╪┘┌█▄▌▐▀αßΓπΣσµτΦΘΩδ∞φε∩≡±≥≤⌠⌡÷≈°∙·√ⁿ²■\u00A0"

def cp720 : CodePage where
  names := ["cp720"]
  upper :=
    "\u0080\u0081éâ\u0084à\u0086çêëèïî\u008D\u008E\u008F\u0090\u0651\u0652ô¤ـûùءآأؤ£إئابة" ++
    "تثجحخدذرزسشص«»░▒▓│┤╡╢╖╕╣║╗╝╜╛┐└┴┬├─┼╞╟╚╔╩╦╠═╬╧╨╤╥╙╘╒╓╫╪┘┌█▄▌▐▀ضطظعغفµقكلمنهوىي≡" ++
    "\u064B\u064C\u064D\u064E\u064F\u0650≈°∙·√ⁿ²■\u00A0"

def cp737 : CodePage where
  names := ["cp737"]
  upper :=
    "ΑΒΓΔΕΖΗΘΙΚΛΜΝΞΟΠΡΣΤΥΦΧΨΩαβγδεζηθικλμνξοπρσςτυφχψ░▒▓│┤╡╢╖╕╣║╗╝╜╛┐└┴┬├─┼╞╟╚╔╩╦╠═╬╧╨╤╥╙" ++
    "╘╒╓╫╪┘┌█▄▌▐▀ωάέήϊίόύϋώΆΈΉΊΌΎΏ±≥≤ΪΫ÷≈°∙·√ⁿ²■\u00A0"

def cp775 : CodePage where
  names := ["cp775", "775", "cspc775baltic", "ibm775"]
  upper :=
    "ĆüéāäģåćłēŖŗīŹÄÅÉæÆōöĢ¢ŚśÖÜø£Ø×¤ĀĪóŻżź”¦©®¬½¼Ł«»░▒▓│┤ĄČĘĖ╣║╗╝ĮŠ┐└┴┬├─┼ŲŪ╚╔╩╦╠═╬Žąčęė" ++
    "įšųūž┘┌█▄▌▐▀ÓßŌŃõÕµńĶķĻļņĒŅ’\u00AD±“¾¶§÷„°∙·¹³²■\u00A0"

def cp850 : CodePage where
  names := ["cp850", "850", "cspc850multilingual", "ibm850"]
  upper :=
    "ÇüéâäàåçêëèïîìÄÅÉæÆôöòûùÿÖÜø£Ø×ƒáíóúñÑªº¿®¬½¼¡«»░▒▓│┤ÁÂÀ©╣║╗╝¢¥┐└┴┬├─┼ãÃ╚╔╩╦╠═╬¤ðÐÊË" ++
    "ÈıÍÎÏ┘┌█▄¦Ì▀ÓßÔÒõÕµþÞÚÛÙýÝ\u00AF\u00B4\u00AD±‗¾¶§÷\u00B8°\u00A8·¹³²■\u00A0"

def cp852 : CodePage where
  names := ["cp852", "852", "cspcp852", "ibm852"]
  upper :=
    "ÇüéâäůćçłëŐőîŹÄĆÉĹĺôöĽľŚśÖÜŤťŁ×čáíóúĄąŽžĘę¬źČş«»░▒▓│┤ÁÂĚŞ╣║╗╝Żż┐└┴┬├─┼Ăă╚╔╩╦╠═╬¤đĐĎË" ++
    "ďŇÍÎě┘┌█▄ŢŮ▀ÓßÔŃńňŠšŔÚŕŰýÝţ\u00B4\u00AD\u02DD\u02DBˇ\u02D8§÷\u00B8°\u00A8\u02D9űŘř■" ++
    "\u00A0"

def cp855 : CodePage where
  names := ["cp855", "855", "csibm855", "ibm855"]
  upper :=
    "ђЂѓЃёЁєЄѕЅіІїЇјЈљЉњЊћЋќЌўЎџЏюЮъЪаАбБцЦдДеЕфФгГ«»░▒▓│┤хХиИ╣║╗╝йЙ┐└┴┬├─┼кК╚╔╩╦╠═╬¤лЛмМ" ++
    "нНоОп┘┌█▄Пя▀ЯрРсСтТуУжЖвВьЬ№\u00ADыЫзЗшШэЭщЩчЧ§■\u00A0"

def cp856 : CodePage where
  names := ["cp856"]
  upper :=
    "אבגדהוזחטיךכלםמןנסעףפץצקרשת\uFFFE£\uFFFE×\uFFFE\uFFFE\uFFFE\uFFFE\uFFFE\uFFFE\uFFFE" ++
    "\uFFFE\uFFFE\uFFFE®¬½¼\uFFFE«»░▒▓│┤\uFFFE\uFFFE\uFFFE©╣║╗╝¢¥┐└┴┬├─┼\uFFFE\uFFFE╚╔╩╦╠" ++
    "═╬¤\uFFFE\uFFFE\uFFFE\uFFFE\uFFFE\uFFFE\uFFFE\uFFFE\uFFFE┘┌█▄¦\uFFFE▀\uFFFE\uFFFE" ++
    "\uFFFE\uFFFE\uFFFE\uFFFEµ\uFFFE\uFFFE\uFFFE\uFFFE\uFFFE\uFFFE\uFFFE\u00AF\u00B4" ++
    "\u00AD±‗¾¶§÷\u00B8°\u00A8·¹³²■\u00A0"

def cp857 : CodePage where
  names := ["cp857", "857", "csibm857", "ibm857"]
  upper :=
    "ÇüéâäàåçêëèïîıÄÅÉæÆôöòûùİÖÜø£ØŞşáíóúñÑĞğ¿®¬½¼¡«»░▒▓│┤ÁÂÀ©╣║╗╝¢¥┐└┴┬├─┼ãÃ╚╔╩╦╠═╬¤ºªÊË" ++
    "È\uFFFEÍÎÏ┘┌█▄¦Ì▀ÓßÔÒõÕµ\uFFFE×ÚÛÙìÿ\u00AF\u00B4\u00AD±\uFFFE¾¶§÷\u00B8°\u00A8·¹³²■" ++
    "\u00A0"

def cp858 : CodePage where
  names := ["cp858", "858", "csibm858", "ibm858"]
  upper :=
    "ÇüéâäàåçêëèïîìÄÅÉæÆôöòûùÿÖÜø£Ø×ƒáíóúñÑªº¿®¬½¼¡«»░▒▓│┤ÁÂÀ©╣║╗╝¢¥┐└┴┬├─┼ãÃ╚╔╩╦╠═╬¤ðÐÊË" ++
    "È€ÍÎÏ┘┌█▄¦Ì▀ÓßÔÒõÕµþÞÚÛÙýÝ\u00AF\u00B4\u00AD±‗¾¶§÷\u00B8°\u00A8·¹³²■\u00A0"

def cp860 : CodePage where
  names := ["cp860", "860", "csibm860", "ibm860"]
  upper :=
    "ÇüéâãàÁçêÊèÍÔìÃÂÉÀÈôõòÚùÌÕÜ¢£Ù₧ÓáíóúñÑªº¿Ò¬½¼¡«»░▒▓│┤╡╢╖╕╣║╗╝╜╛┐└┴┬├─┼╞╟╚╔╩╦╠═╬╧╨╤╥╙" ++
    "╘╒╓╫╪┘┌█▄▌▐▀αßΓπΣσµτΦΘΩδ∞φε∩≡±≥≤⌠⌡÷≈°∙·√ⁿ²■\u00A0"

def cp861 : CodePage where
  names := ["cp861", "861", "cp_is", "csibm861", "ibm861"]
  upper :=
    "ÇüéâäàåçêëèÐðÞÄÅÉæÆôöþûÝýÖÜø£Ø₧ƒáíóúÁÍÓÚ¿⌐¬½¼¡«»░▒▓│┤╡╢╖╕╣║╗╝╜╛┐└┴┬├─┼╞╟╚╔╩╦╠═╬╧╨╤╥╙" ++
    "╘╒╓╫╪┘┌█▄▌▐▀αßΓπΣσµτΦΘΩδ∞φε∩≡±≥≤⌠⌡÷≈°∙·√ⁿ²■\u00A0"

def cp862 : CodePage where
  names := ["cp862", "862", "cspc862latinhebrew", "ibm862"]
  upper :=
    "אבגדהוזחטיךכלםמןנסעףפץצקרשת¢£¥₧ƒáíóúñÑªº¿⌐¬½¼¡«»░▒▓│┤╡╢╖╕╣║╗╝╜╛┐└┴┬├─┼╞╟╚╔╩╦╠═╬╧╨╤╥╙" ++
    "╘╒╓╫╪┘┌█▄▌▐▀αßΓπΣσµτΦΘΩδ∞φε∩≡±≥≤⌠⌡÷≈°∙·√ⁿ²■\u00A0"

def cp863 : CodePage where
  names := ["cp863", "863", "csibm863", "ibm863"]
  upper :=
    "ÇüéâÂà¶çêëèïî‗À§ÉÈÊôËÏûù¤ÔÜ¢£ÙÛƒ¦\u00B4óú\u00A8\u00B8³\u00AFÎ⌐¬½¼¾«»░▒▓│┤╡╢╖╕╣║╗╝╜╛┐" ++
    "└┴┬├─┼╞╟╚╔╩╦╠═╬╧╨╤╥╙╘╒╓╫╪┘┌█▄▌▐▀αßΓπΣσµτΦΘΩδ∞φε∩≡±≥≤⌠⌡÷≈°∙·√ⁿ²■\u00A0"

def cp864 : CodePage where
  names := ["cp864", "864", "csibm864", "ibm864"]
  lower := some (
    "\u0000\u0001\u0002\u0003\u0004\u0005\u0006\u0007\u0008\u0009\u000A\u000B\u000C\u000D" ++
    "\u000E\u000F\u0010\u0011\u0012\u0013\u0014\u0015\u0016\u0017\u0018\u0019\u001A\u001B" ++
    "\u001C\u001D\u001E\u001F !\u0022#$٪&\u0027()*+,-./0123456789:;<=>?@ABCDEFGHIJKLMNOPQ" ++
    "RSTUVWXYZ[\u005C]^_\u0060abcdefghijklmnopqrstuvwxyz\u007B|\u007D~\u007F")
  upper :=
    "°·∙√▒─│┼┤┬├┴┐┌└┘β∞φ±½¼≈«»ﻷﻸ\uFFFE\uFFFEﻻﻼ\uFFFE\u00A0\u00ADﺂ£¤ﺄ\uFFFE\uFFFEﺎﺏﺕﺙ،ﺝﺡﺥ٠" ++
    "١٢٣٤٥٦٧٨٩ﻑ؛ﺱﺵﺹ؟¢ﺀﺁﺃﺅﻊﺋﺍﺑﺓﺗﺛﺟﺣﺧﺩﺫﺭﺯﺳﺷﺻﺿﻁﻅﻋﻏ¦¬÷×ﻉـﻓﻗﻛﻟﻣﻧﻫﻭﻯﻳﺽﻌﻎﻍﻡﹽ\u0651ﻥﻩﻬﻰﻲﻐﻕﻵﻶﻝﻙﻱ■" ++
    "\uFFFE"

def cp865 : CodePage where
  names := ["cp865", "865", "csibm865", "ibm865"]
  upper :=
    "ÇüéâäàåçêëèïîìÄÅÉæÆôöòûùÿÖÜø£Ø₧ƒáíóúñÑªº¿⌐¬½¼¡«¤░▒▓│┤╡╢╖╕╣║╗╝╜╛┐└┴┬├─┼╞╟╚╔╩╦╠═╬╧╨╤╥╙" ++
    "╘╒╓╫╪┘┌█▄▌▐▀αßΓπΣσµτΦΘΩδ∞φε∩≡±≥≤⌠⌡÷≈°∙·√ⁿ²■\u00A0"

def cp866 : CodePage where
  names := ["cp866", "866", "csibm866", "ibm866"]
  upper :=
    "АБВГДЕЖЗИЙКЛМНОПРСТУФХЦЧШЩЪЫЬЭЮЯабвгдежзийклмноп░▒▓│┤╡╢╖╕╣║╗╝╜╛┐└┴┬├─┼╞╟╚╔╩╦╠═╬╧╨╤╥╙" ++
    "╘╒╓╫╪┘┌█▄▌▐▀рстуфхцчшщъыьэюяЁёЄєЇїЎў°∙·√№¤■\u00A0"

def cp869 : CodePage where
  names := ["cp869", "869", "cp_gr", "csibm869", "ibm869"]
  upper :=
    "\uFFFE\uFFFE\uFFFE\uFFFE\uFFFE\uFFFEΆ\uFFFE·¬¦‘’Έ―ΉΊΪΌ\uFFFE\uFFFEΎΫ©Ώ²³ά£έήίϊΐόύΑΒΓ" ++
    "ΔΕΖΗ½ΘΙ«»░▒▓│┤ΚΛΜΝ╣║╗╝ΞΟ┐└┴┬├─┼ΠΡ╚╔╩╦╠═╬ΣΤΥΦΧΨΩαβγ┘┌█▄δε▀ζηθικλμνξοπρσςτ\u0384\u00AD" ++
    "±υφχ§ψ\u0385°\u00A8ωϋΰώ■\u00A0"

def cp1006 : CodePage where
  names := ["cp1006"]
  upper :=
    "\u0080\u0081\u0082\u0083\u0084\u0085\u0086\u0087\u0088\u0089\u008A\u008B\u008C\u008D" ++
    "\u008E\u008F\u0090\u0091\u0092\u0093\u0094\u0095\u0096\u0097\u0098\u0099\u009A\u009B" ++
    "\u009C\u009D\u009E\u009F\u00A0۰۱۲۳۴۵۶۷۸۹،؛\u00AD؟ﺁﺍﺎﺎﺏﺑﭖﭘﺓﺕﺗﭦﭨﺙﺛﺝﺟﭺﭼﺡﺣﺥﺧﺩﮄﺫﺭﮌﺯﮊﺱﺳﺵﺷﺹ" ++
    "ﺻﺽﺿﻁﻅﻉﻊﻋﻌﻍﻎﻏﻐﻑﻓﻕﻗﻙﻛﮒﮔﻝﻟﻠﻡﻣﮞﻥﻧﺅﻭﮦﮨﮩﮪﺀﺉﺊﺋﻱﻲﻳﮰﮮﹼﹽ"

def cp1125 : CodePage where
  names := ["cp1125", "1125", "cp866u", "ibm1125", "ruscii"]
  upper :=
    "АБВГДЕЖЗИЙКЛМНОПРСТУФХЦЧШЩЪЫЬЭЮЯабвгдежзийклмноп░▒▓│┤╡╢╖╕╣║╗╝╜╛┐└┴┬├─┼╞╟╚╔╩╦╠═╬╧╨╤╥╙" ++
    "╘╒╓╫╪┘┌█▄▌▐▀рстуфхцчшщъыьэюяЁёҐґЄєІіЇї·√№¤■\u00A0"

def cp037 : CodePage where
  names := ["cp037", "037", "csibm037", "ebcdic_cp_ca", "ebcdic_cp_nl", "ebcdic_cp_us",
    "ebcdic_cp_wt", "ibm037", "ibm039"]
  lower := some (
    "\u0000\u0001\u0002\u0003\u009C\u0009\u0086\u007F\u0097\u008D\u008E\u000B\u000C\u000D" ++
    "\u000E\u000F\u0010\u0011\u0012\u0013\u009D\u0085\u0008\u0087\u0018\u0019\u0092\u008F" ++
    "\u001C\u001D\u001E\u001F\u0080\u0081\u0082\u0083\u0084\u000A\u0017\u001B\u0088\u0089" ++
    "\u008A\u008B\u008C\u0005\u0006\u0007\u0090\u0091\u0016\u0093\u0094\u0095\u0096\u0004" ++
    "\u0098\u0099\u009A\u009B\u0014\u0015\u009E\u001A \u00A0âäàáãåçñ¢.<(+|&éêëèíîïìß!$*);" ++
    "¬-/ÂÄÀÁÃÅÇÑ¦,%_>?øÉÊËÈÍÎÏÌ\u0060:#@\u0027=\u0022")
  upper :=
    "Øabcdefghi«»ðýþ±°jklmnopqrªºæ\u00B8Æ¤µ~stuvwxyz¡¿ÐÝÞ®^£¥·©§¶¼½¾[]\u00AF\u00A8\u00B4×" ++
    "\u007BABCDEFGHI\u00ADôöòóõ\u007DJKLMNOPQR¹ûüùúÿ\u005C÷STUVWXYZ²ÔÖÒÓÕ0123456789³ÛÜÙÚ" ++
    "\u009F"

def cp273 : CodePage where
  names := ["cp273", "273", "csibm273", "ibm273"]
  lower := some (
    "\u0000\u0001\u0002\u0003\u009C\u0009\u0086\u007F\u0097\u008D\u008E\u000B\u000C\u000D" ++
    "\u000E\u000F\u0010\u0011\u0012\u0013\u009D\u0085\u0008\u0087\u0018\u0019\u0092\u008F" ++
    "\u001C\u001D\u001E\u001F\u0080\u0081\u0082\u0083\u0084\u000A\u0017\u001B\u0088\u0089" ++
    "\u008A\u008B\u008C\u0005\u0006\u0007\u0090\u0091\u0016\u0093\u0094\u0095\u0096\u0004" ++
    "\u0098\u0099\u009A\u009B\u0014\u0015\u009E\u001A \u00A0â\u007BàáãåçñÄ.<(+!&éêëèíîïì~" ++
    "Ü$*);^-/Â[ÀÁÃÅÇÑö,%_>?øÉÊËÈÍÎÏÌ\u0060:#§\u0027=\u0022")
  upper :=
    "Øabcdefghi«»ðýþ±°jklmnopqrªºæ\u00B8Æ¤µßstuvwxyz¡¿ÐÝÞ®¢£¥·©@¶¼½¾¬|‾\u00A8\u00B4×äABCD" ++
    "EFGHI\u00ADô¦òóõüJKLMNOPQR¹û\u007DùúÿÖ÷STUVWXYZ²Ô\u005CÒÓÕ0123456789³Û]ÙÚ\u009F"

def cp424 : CodePage where
  names := ["cp424", "424", "csibm424", "ebcdic_cp_he", "ibm424"]
  lower := some (
    "\u0000\u0001\u0002\u0003\u009C\u0009\u0086\u007F\u0097\u008D\u008E\u000B\u000C\u000D" ++
    "\u000E\u000F\u0010\u0011\u0012\u0013\u009D\u0085\u0008\u0087\u0018\u0019\u0092\u008F" ++
    "\u001C\u001D\u001E\u001F\u0080\u0081\u0082\u0083\u0084\u000A\u0017\u001B\u0088\u0089" ++
    "\u008A\u008B\u008C\u0005\u0006\u0007\u0090\u0091\u0016\u0093\u0094\u0095\u0096\u0004" ++
    "\u0098\u0099\u009A\u009B\u0014\u0015\u009E\u001A אבגדהוזחט¢.<(+|&יךכלםמןנס!$*);¬-/עף" ++
    "פץצקרש¦,%_>?\uFFFEת\uFFFE\uFFFE\u00A0\uFFFE\uFFFE\uFFFE‗\u0060:#@\u0027=\u0022")
  upper :=
    "\uFFFEabcdefghi«»\uFFFE\uFFFE\uFFFE±°jklmnopqr\uFFFE\uFFFE\uFFFE\u00B8\uFFFE¤µ~stuvw" ++
    "xyz\uFFFE\uFFFE\uFFFE\uFFFE\uFFFE®^£¥·©§¶¼½¾[]\u00AF\u00A8\u00B4×\u007BABCDEFGHI" ++
    "\u00AD\uFFFE\uFFFE\uFFFE\uFFFE\uFFFE\u007DJKLMNOPQR¹\uFFFE\uFFFE\uFFFE\uFFFE\uFFFE" ++
    "\u005C÷STUVWXYZ²\uFFFE\uFFFE\uFFFE\uFFFE\uFFFE0123456789³\uFFFE\uFFFE\uFFFE\uFFFE" ++
    "\u009F"

def cp500 : CodePage where
  names := ["cp500", "500", "csibm500", "ebcdic_cp_be", "ebcdic_cp_ch", "ibm500"]
  lower := some (
    "\u0000\u0001\u0002\u0003\u009C\u0009\u0086\u007F\u0097\u008D\u008E\u000B\u000C\u000D" ++
    "\u000E\u000F\u0010\u0011\u0012\u0013\u009D\u0085\u0008\u0087\u0018\u0019\u0092\u008F" ++
    "\u001C\u001D\u001E\u001F\u0080\u0081\u0082\u0083\u0084\u000A\u0017\u001B\u0088\u0089" ++
    "\u008A\u008B\u008C\u0005\u0006\u0007\u0090\u0091\u0016\u0093\u0094\u0095\u0096\u0004" ++
    "\u0098\u0099\u009A\u009B\u0014\u0015\u009E\u001A \u00A0âäàáãåçñ[.<(+!&éêëèíîïìß]$*);" ++
    "^-/ÂÄÀÁÃÅÇÑ¦,%_>?øÉÊËÈÍÎÏÌ\u0060:#@\u0027=\u0022")
  upper :=
    "Øabcdefghi«»ðýþ±°jklmnopqrªºæ\u00B8Æ¤µ~stuvwxyz¡¿ÐÝÞ®¢£¥·©§¶¼½¾¬|\u00AF\u00A8\u00B4×" ++
    "\u007BABCDEFGHI\u00ADôöòóõ\u007DJKLMNOPQR¹ûüùúÿ\u005C÷STUVWXYZ²ÔÖÒÓÕ0123456789³ÛÜÙÚ" ++
    "\u009F"

def cp875 : CodePage where
  names := ["cp875"]
  lower := some (
    "\u0000\u0001\u0002\u0003\u009C\u0009\u0086\u007F\u0097\u008D\u008E\u000B\u000C\u000D" ++
    "\u000E\u000F\u0010\u0011\u0012\u0013\u009D\u0085\u0008\u0087\u0018\u0019\u0092\u008F" ++
    "\u001C\u001D\u001E\u001F\u0080\u0081\u0082\u0083\u0084\u000A\u0017\u001B\u0088\u0089" ++
    "\u008A\u008B\u008C\u0005\u0006\u0007\u0090\u0091\u0016\u0093\u0094\u0095\u0096\u0004" ++
    "\u0098\u0099\u009A\u009B\u0014\u0015\u009E\u001A ΑΒΓΔΕΖΗΘΙ[.<(+!&ΚΛΜΝΞΟΠΡΣ]$*);^-/ΤΥ" ++
    "ΦΧΨΩΪΫ|,%_>?\u00A8ΆΈΉ\u00A0ΊΌΎΏ\u0060:#@\u0027=\u0022")
  upper :=
    "\u0385abcdefghiαβγδεζ°jklmnopqrηθικλμ\u00B4~stuvwxyzνξοπρσ£άέήϊίόύϋώςτυφχψ\u007BABCD" ++
    "EFGHI\u00ADωΐΰ‘―\u007DJKLMNOPQR±½\u001A·’¦\u005C\u001ASTUVWXYZ²§\u001A\u001A«¬012345" ++
    "6789³©\u001A\u001A»\u009F"

def cp1026 : CodePage where
  names := ["cp1026", "1026", "csibm1026", "ibm1026"]
  lower := some (
    "\u0000\u0001\u0002\u0003\u009C\u0009\u0086\u007F\u0097\u008D\u008E\u000B\u000C\u000D" ++
    "\u000E\u000F\u0010\u0011\u0012\u0013\u009D\u0085\u0008\u0087\u0018\u0019\u0092\u008F" ++
    "\u001C\u001D\u001E\u001F\u0080\u0081\u0082\u0083\u0084\u000A\u0017\u001B\u0088\u0089" ++
    "\u008A\u008B\u008C\u0005\u0006\u0007\u0090\u0091\u0016\u0093\u0094\u0095\u0096\u0004" ++
    "\u0098\u0099\u009A\u009B\u0014\u0015\u009E\u001A \u00A0âäàáãå\u007BñÇ.<(+!&éêëèíîïìß" ++
    "Ğİ*);^-/ÂÄÀÁÃÅ[Ñş,%_>?øÉÊËÈÍÎÏÌı:ÖŞ\u0027=Ü")
  upper :=
    "Øabcdefghi«»\u007D\u0060¦±°jklmnopqrªºæ\u00B8Æ¤µöstuvwxyz¡¿]$@®¢£¥·©§¶¼½¾¬|\u00AF" ++
    "\u00A8\u00B4×çABCDEFGHI\u00ADô~òóõğJKLMNOPQR¹û\u005Cùúÿü÷STUVWXYZ²Ô#ÒÓÕ0123456789³Û" ++
    "\u0022ÙÚ\u009F"

def cp1140 : CodePage where
  names := ["cp1140", "1140", "ibm1140"]
  lower := some (
    "\u0000\u0001\u0002\u0003\u009C\u0009\u0086\u007F\u0097\u008D\u008E\u000B\u000C\u000D" ++
    "\u000E\u000F\u0010\u0011\u0012\u0013\u009D\u0085\u0008\u0087\u0018\u0019\u0092\u008F" ++
    "\u001C\u001D\u001E\u001F\u0080\u0081\u0082\u0083\u0084\u000A\u0017\u001B\u0088\u0089" ++
    "\u008A\u008B\u008C\u0005\u0006\u0007\u0090\u0091\u0016\u0093\u0094\u0095\u0096\u0004" ++
    "\u0098\u0099\u009A\u009B\u0014\u0015\u009E\u001A \u00A0âäàáãåçñ¢.<(+|&éêëèíîïìß!$*);" ++
    "¬-/ÂÄÀÁÃÅÇÑ¦,%_>?øÉÊËÈÍÎÏÌ\u0060:#@\u0027=\u0022")
  upper :=
    "Øabcdefghi«»ðýþ±°jklmnopqrªºæ\u00B8Æ€µ~stuvwxyz¡¿ÐÝÞ®^£¥·©§¶¼½¾[]\u00AF\u00A8\u00B4×" ++
    "\u007BABCDEFGHI\u00ADôöòóõ\u007DJKLMNOPQR¹ûüùúÿ\u005C÷STUVWXYZ²ÔÖÒÓÕ0123456789³ÛÜÙÚ" ++
    "\u009F"

def all : List CodePage :=
  [cp1250, cp1251, cp1252, cp1253, cp1254, cp1255, cp1256, cp1257, cp1258, iso88592,
   iso88593, iso88594, iso88595, iso88596, iso88597, iso88598, iso88599, iso885910,
   iso885911, iso885913, iso885914, iso885915, iso885916, koi8R, koi8T, koi8U, kz1048,
   ptcp154, tis620, cp874, hpRoman8, palmos, macRoman, macArabic, macCroatian, macCyrillic,
   macFarsi, macGreek, macIceland, macLatin2, macRomanian, macTurkish, cp437, cp720, cp737,
   cp775, cp850, cp852, cp855, cp856, cp857, cp858, cp860, cp861, cp862, cp863, cp864,
   cp865, cp866, cp869, cp1006, cp1125, cp037, cp273, cp424, cp500, cp875, cp1026, cp1140]

end CodePage

end Weave
