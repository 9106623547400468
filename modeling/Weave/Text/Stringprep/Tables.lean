import Weave.Text.Stringprep.Table

/-! # The tables of string preparation

The tables of RFC 3454 that preparing a name for the domain name system reads: the
characters mapped to nothing, the exceptions to case folding, the categories of Unicode 3.2
that prohibited characters are taken from, and the bidirectional categories.
-/

namespace Weave.Text.Stringprep

def mappedToNothing : List Nat :=
  [0xAD, 0x34F, 0x1806, 0x180B, 0x180C, 0x180D, 0x200B, 0x200C, 0x200D, 0x2060, 0xFE00, 0xFE01, 0xFE02, 0xFE03, 0xFE04, 0xFE05, 0xFE06, 0xFE07, 0xFE08, 0xFE09, 0xFE0A, 0xFE0B, 0xFE0C, 0xFE0D, 0xFE0E, 0xFE0F, 0xFEFF]

/-- The characters whose case folding is not their lower case, with what they fold to
(the exceptions of table B.3). -/
def foldingExceptionText : String := String.join [
  "µμ\tßss\tİi\u0307\tŉʼn\tſs\tǰj\u030C\t\u0345ι\tͺ\u0020ι\tΐι\u0308\u0301\tΰυ\u0308\u0301\tςσ\tϐβ\t",
  "ϑθ\tϒυ\tϓύ\tϔϋ\tϕφ\tϖπ\tϰκ\tϱρ\tϲσ\tϵε\tևեւ\tẖh\u0331\t",
  "ẗt\u0308\tẘw\u030A\tẙy\u030A\tẚaʾ\tẛṡ\tὐυ\u0313\tὒυ\u0313\u0300\tὔυ\u0313\u0301\tὖυ\u0313\u0342\tᾀἀι\tᾁἁι\tᾂἂι\t",
  "ᾃἃι\tᾄἄι\tᾅἅι\tᾆἆι\tᾇἇι\tᾈἀι\tᾉἁι\tᾊἂι\tᾋἃι\tᾌἄι\tᾍἅι\tᾎἆι\t",
  "ᾏἇι\tᾐἠι\tᾑἡι\tᾒἢι\tᾓἣι\tᾔἤι\tᾕἥι\tᾖἦι\tᾗἧι\tᾘἠι\tᾙἡι\tᾚἢι\t",
  "ᾛἣι\tᾜἤι\tᾝἥι\tᾞἦι\tᾟἧι\tᾠὠι\tᾡὡι\tᾢὢι\tᾣὣι\tᾤὤι\tᾥὥι\tᾦὦι\t",
  "ᾧὧι\tᾨὠι\tᾩὡι\tᾪὢι\tᾫὣι\tᾬὤι\tᾭὥι\tᾮὦι\tᾯὧι\tᾲὰι\tᾳαι\tᾴάι\t",
  "ᾶα\u0342\tᾷα\u0342ι\tᾼαι\tιι\tῂὴι\tῃηι\tῄήι\tῆη\u0342\tῇη\u0342ι\tῌηι\tῒι\u0308\u0300\tΐι\u0308\u0301\t",
  "ῖι\u0342\tῗι\u0308\u0342\tῢυ\u0308\u0300\tΰυ\u0308\u0301\tῤρ\u0313\tῦυ\u0342\tῧυ\u0308\u0342\tῲὼι\tῳωι\tῴώι\tῶω\u0342\tῷω\u0342ι\t",
  "ῼωι\t₨rs\tℂc\t℃°c\tℇɛ\t℉°f\tℋh\tℌh\tℍh\tℐi\tℑi\tℒl\t",
  "ℕn\t№no\tℙp\tℚq\tℛr\tℜr\tℝr\t℠sm\t℡tel\t™tm\tℤz\tℨz\t",
  "ℬb\tℭc\tℰe\tℱf\tℳm\tℾγ\tℿπ\tⅅd\t㍱hpa\t㍳au\t㍵ov\t㎀pa\t",
  "㎁na\t㎂μa\t㎃ma\t㎄ka\t㎅kb\t㎆mb\t㎇gb\t㎊pf\t㎋nf\t㎌μf\t㎐hz\t㎑khz\t",
  "㎒mhz\t㎓ghz\t㎔thz\t㎩pa\t㎪kpa\t㎫mpa\t㎬gpa\t㎴pv\t㎵nv\t㎶μv\t㎷mv\t㎸kv\t",
  "㎹mv\t㎺pw\t㎻nw\t㎼μw\t㎽mw\t㎾kw\t㎿mw\t㏀kω\t㏁mω\t㏃bq\t㏆c∕kg\t㏇co.\t",
  "㏈db\t㏉gy\t㏋hp\t㏍kk\t㏎km\t㏗ph\t㏙ppm\t㏚pr\t㏜sv\t㏝wb\tﬀff\tﬁfi\t",
  "ﬂfl\tﬃffi\tﬄffl\tﬅst\tﬆst\tﬓմն\tﬔմե\tﬕմի\tﬖվն\tﬗմխ\t𝐀a\t𝐁b\t",
  "𝐂c\t𝐃d\t𝐄e\t𝐅f\t𝐆g\t𝐇h\t𝐈i\t𝐉j\t𝐊k\t𝐋l\t𝐌m\t𝐍n\t",
  "𝐎o\t𝐏p\t𝐐q\t𝐑r\t𝐒s\t𝐓t\t𝐔u\t𝐕v\t𝐖w\t𝐗x\t𝐘y\t𝐙z\t",
  "𝐴a\t𝐵b\t𝐶c\t𝐷d\t𝐸e\t𝐹f\t𝐺g\t𝐻h\t𝐼i\t𝐽j\t𝐾k\t𝐿l\t",
  "𝑀m\t𝑁n\t𝑂o\t𝑃p\t𝑄q\t𝑅r\t𝑆s\t𝑇t\t𝑈u\t𝑉v\t𝑊w\t𝑋x\t",
  "𝑌y\t𝑍z\t𝑨a\t𝑩b\t𝑪c\t𝑫d\t𝑬e\t𝑭f\t𝑮g\t𝑯h\t𝑰i\t𝑱j\t",
  "𝑲k\t𝑳l\t𝑴m\t𝑵n\t𝑶o\t𝑷p\t𝑸q\t𝑹r\t𝑺s\t𝑻t\t𝑼u\t𝑽v\t",
  "𝑾w\t𝑿x\t𝒀y\t𝒁z\t𝒜a\t𝒞c\t𝒟d\t𝒢g\t𝒥j\t𝒦k\t𝒩n\t𝒪o\t",
  "𝒫p\t𝒬q\t𝒮s\t𝒯t\t𝒰u\t𝒱v\t𝒲w\t𝒳x\t𝒴y\t𝒵z\t𝓐a\t𝓑b\t",
  "𝓒c\t𝓓d\t𝓔e\t𝓕f\t𝓖g\t𝓗h\t𝓘i\t𝓙j\t𝓚k\t𝓛l\t𝓜m\t𝓝n\t",
  "𝓞o\t𝓟p\t𝓠q\t𝓡r\t𝓢s\t𝓣t\t𝓤u\t𝓥v\t𝓦w\t𝓧x\t𝓨y\t𝓩z\t",
  "𝔄a\t𝔅b\t𝔇d\t𝔈e\t𝔉f\t𝔊g\t𝔍j\t𝔎k\t𝔏l\t𝔐m\t𝔑n\t𝔒o\t",
  "𝔓p\t𝔔q\t𝔖s\t𝔗t\t𝔘u\t𝔙v\t𝔚w\t𝔛x\t𝔜y\t𝔸a\t𝔹b\t𝔻d\t",
  "𝔼e\t𝔽f\t𝔾g\t𝕀i\t𝕁j\t𝕂k\t𝕃l\t𝕄m\t𝕆o\t𝕊s\t𝕋t\t𝕌u\t",
  "𝕍v\t𝕎w\t𝕏x\t𝕐y\t𝕬a\t𝕭b\t𝕮c\t𝕯d\t𝕰e\t𝕱f\t𝕲g\t𝕳h\t",
  "𝕴i\t𝕵j\t𝕶k\t𝕷l\t𝕸m\t𝕹n\t𝕺o\t𝕻p\t𝕼q\t𝕽r\t𝕾s\t𝕿t\t",
  "𝖀u\t𝖁v\t𝖂w\t𝖃x\t𝖄y\t𝖅z\t𝖠a\t𝖡b\t𝖢c\t𝖣d\t𝖤e\t𝖥f\t",
  "𝖦g\t𝖧h\t𝖨i\t𝖩j\t𝖪k\t𝖫l\t𝖬m\t𝖭n\t𝖮o\t𝖯p\t𝖰q\t𝖱r\t",
  "𝖲s\t𝖳t\t𝖴u\t𝖵v\t𝖶w\t𝖷x\t𝖸y\t𝖹z\t𝗔a\t𝗕b\t𝗖c\t𝗗d\t",
  "𝗘e\t𝗙f\t𝗚g\t𝗛h\t𝗜i\t𝗝j\t𝗞k\t𝗟l\t𝗠m\t𝗡n\t𝗢o\t𝗣p\t",
  "𝗤q\t𝗥r\t𝗦s\t𝗧t\t𝗨u\t𝗩v\t𝗪w\t𝗫x\t𝗬y\t𝗭z\t𝘈a\t𝘉b\t",
  "𝘊c\t𝘋d\t𝘌e\t𝘍f\t𝘎g\t𝘏h\t𝘐i\t𝘑j\t𝘒k\t𝘓l\t𝘔m\t𝘕n\t",
  "𝘖o\t𝘗p\t𝘘q\t𝘙r\t𝘚s\t𝘛t\t𝘜u\t𝘝v\t𝘞w\t𝘟x\t𝘠y\t𝘡z\t",
  "𝘼a\t𝘽b\t𝘾c\t𝘿d\t𝙀e\t𝙁f\t𝙂g\t𝙃h\t𝙄i\t𝙅j\t𝙆k\t𝙇l\t",
  "𝙈m\t𝙉n\t𝙊o\t𝙋p\t𝙌q\t𝙍r\t𝙎s\t𝙏t\t𝙐u\t𝙑v\t𝙒w\t𝙓x\t",
  "𝙔y\t𝙕z\t𝙰a\t𝙱b\t𝙲c\t𝙳d\t𝙴e\t𝙵f\t𝙶g\t𝙷h\t𝙸i\t𝙹j\t",
  "𝙺k\t𝙻l\t𝙼m\t𝙽n\t𝙾o\t𝙿p\t𝚀q\t𝚁r\t𝚂s\t𝚃t\t𝚄u\t𝚅v\t",
  "𝚆w\t𝚇x\t𝚈y\t𝚉z\t𝚨α\t𝚩β\t𝚪γ\t𝚫δ\t𝚬ε\t𝚭ζ\t𝚮η\t𝚯θ\t",
  "𝚰ι\t𝚱κ\t𝚲λ\t𝚳μ\t𝚴ν\t𝚵ξ\t𝚶ο\t𝚷π\t𝚸ρ\t𝚹θ\t𝚺σ\t𝚻τ\t",
  "𝚼υ\t𝚽φ\t𝚾χ\t𝚿ψ\t𝛀ω\t𝛓σ\t𝛢α\t𝛣β\t𝛤γ\t𝛥δ\t𝛦ε\t𝛧ζ\t",
  "𝛨η\t𝛩θ\t𝛪ι\t𝛫κ\t𝛬λ\t𝛭μ\t𝛮ν\t𝛯ξ\t𝛰ο\t𝛱π\t𝛲ρ\t𝛳θ\t",
  "𝛴σ\t𝛵τ\t𝛶υ\t𝛷φ\t𝛸χ\t𝛹ψ\t𝛺ω\t𝜍σ\t𝜜α\t𝜝β\t𝜞γ\t𝜟δ\t",
  "𝜠ε\t𝜡ζ\t𝜢η\t𝜣θ\t𝜤ι\t𝜥κ\t𝜦λ\t𝜧μ\t𝜨ν\t𝜩ξ\t𝜪ο\t𝜫π\t",
  "𝜬ρ\t𝜭θ\t𝜮σ\t𝜯τ\t𝜰υ\t𝜱φ\t𝜲χ\t𝜳ψ\t𝜴ω\t𝝇σ\t𝝖α\t𝝗β\t",
  "𝝘γ\t𝝙δ\t𝝚ε\t𝝛ζ\t𝝜η\t𝝝θ\t𝝞ι\t𝝟κ\t𝝠λ\t𝝡μ\t𝝢ν\t𝝣ξ\t",
  "𝝤ο\t𝝥π\t𝝦ρ\t𝝧θ\t𝝨σ\t𝝩τ\t𝝪υ\t𝝫φ\t𝝬χ\t𝝭ψ\t𝝮ω\t𝞁σ\t",
  "𝞐α\t𝞑β\t𝞒γ\t𝞓δ\t𝞔ε\t𝞕ζ\t𝞖η\t𝞗θ\t𝞘ι\t𝞙κ\t𝞚λ\t𝞛μ\t",
  "𝞜ν\t𝞝ξ\t𝞞ο\t𝞟π\t𝞠ρ\t𝞡θ\t𝞢σ\t𝞣τ\t𝞤υ\t𝞥φ\t𝞦χ\t𝞧ψ\t",
  "𝞨ω\t𝞻σ\t"]

def foldingExceptions : CharTable := .ofEntries foldingExceptionText

def spaceRanges : Array (Nat × Nat) := #[
  (0x20, 0x20), (0xA0, 0xA0), (0x1680, 0x1680), (0x2000, 0x200B), (0x202F, 0x202F), (0x205F, 0x205F),
  (0x3000, 0x3000)]

def controlRanges : Array (Nat × Nat) := #[
  (0x0, 0x1F), (0x7F, 0x9F)]

def privateUseRanges : Array (Nat × Nat) := #[
  (0xE000, 0xF8FF), (0xF0000, 0xFFFFD), (0x100000, 0x10FFFD)]

def otherControls : List Nat :=
  [0x6DD, 0x70F, 0x180E, 0x200C, 0x200D, 0x2028, 0x2029, 0x2060, 0x2061, 0x2062, 0x2063, 0x206A, 0x206B, 0x206C, 0x206D, 0x206E, 0x206F, 0xFEFF, 0xFFF9, 0xFFFA, 0xFFFB, 0xFFFC, 0x1D173, 0x1D174, 0x1D175, 0x1D176, 0x1D177, 0x1D178, 0x1D179, 0x1D17A]

def rightToLeftRanges : Array (Nat × Nat) := #[
  (0x5BE, 0x5BE), (0x5C0, 0x5C0), (0x5C3, 0x5C3), (0x5D0, 0x5EA), (0x5F0, 0x5F4), (0x61B, 0x61B),
  (0x61F, 0x61F), (0x621, 0x63A), (0x640, 0x64A), (0x66D, 0x66F), (0x671, 0x6D5), (0x6DD, 0x6DD),
  (0x6E5, 0x6E6), (0x6FA, 0x6FE), (0x700, 0x70D), (0x710, 0x710), (0x712, 0x72C), (0x780, 0x7A5),
  (0x7B1, 0x7B1), (0x200F, 0x200F), (0xFB1D, 0xFB1D), (0xFB1F, 0xFB28), (0xFB2A, 0xFB36), (0xFB38, 0xFB3C),
  (0xFB3E, 0xFB3E), (0xFB40, 0xFB41), (0xFB43, 0xFB44), (0xFB46, 0xFBB1), (0xFBD3, 0xFD3D), (0xFD50, 0xFD8F),
  (0xFD92, 0xFDC7), (0xFDF0, 0xFDFC), (0xFE70, 0xFE74), (0xFE76, 0xFEFC)]

/-- The characters of Unicode 3.2 of bidirectional category L (table D.2). -/
def leftToRightRanges : Array (Nat × Nat) := #[
  (0x41, 0x5A), (0x61, 0x7A), (0xAA, 0xAA), (0xB5, 0xB5), (0xBA, 0xBA), (0xC0, 0xD6),
  (0xD8, 0xF6), (0xF8, 0x220), (0x222, 0x233), (0x250, 0x2AD), (0x2B0, 0x2B8), (0x2BB, 0x2C1),
  (0x2D0, 0x2D1), (0x2E0, 0x2E4), (0x2EE, 0x2EE), (0x37A, 0x37A), (0x386, 0x386), (0x388, 0x38A),
  (0x38C, 0x38C), (0x38E, 0x3A1), (0x3A3, 0x3CE), (0x3D0, 0x3F5), (0x400, 0x482), (0x48A, 0x4CE),
  (0x4D0, 0x4F5), (0x4F8, 0x4F9), (0x500, 0x50F), (0x531, 0x556), (0x559, 0x55F), (0x561, 0x587),
  (0x589, 0x589), (0x903, 0x903), (0x905, 0x939), (0x93D, 0x940), (0x949, 0x94C), (0x950, 0x950),
  (0x958, 0x961), (0x964, 0x970), (0x982, 0x983), (0x985, 0x98C), (0x98F, 0x990), (0x993, 0x9A8),
  (0x9AA, 0x9B0), (0x9B2, 0x9B2), (0x9B6, 0x9B9), (0x9BE, 0x9C0), (0x9C7, 0x9C8), (0x9CB, 0x9CC),
  (0x9D7, 0x9D7), (0x9DC, 0x9DD), (0x9DF, 0x9E1), (0x9E6, 0x9F1), (0x9F4, 0x9FA), (0xA05, 0xA0A),
  (0xA0F, 0xA10), (0xA13, 0xA28), (0xA2A, 0xA30), (0xA32, 0xA33), (0xA35, 0xA36), (0xA38, 0xA39),
  (0xA3E, 0xA40), (0xA59, 0xA5C), (0xA5E, 0xA5E), (0xA66, 0xA6F), (0xA72, 0xA74), (0xA83, 0xA83),
  (0xA85, 0xA8B), (0xA8D, 0xA8D), (0xA8F, 0xA91), (0xA93, 0xAA8), (0xAAA, 0xAB0), (0xAB2, 0xAB3),
  (0xAB5, 0xAB9), (0xABD, 0xAC0), (0xAC9, 0xAC9), (0xACB, 0xACC), (0xAD0, 0xAD0), (0xAE0, 0xAE0),
  (0xAE6, 0xAEF), (0xB02, 0xB03), (0xB05, 0xB0C), (0xB0F, 0xB10), (0xB13, 0xB28), (0xB2A, 0xB30),
  (0xB32, 0xB33), (0xB36, 0xB39), (0xB3D, 0xB3E), (0xB40, 0xB40), (0xB47, 0xB48), (0xB4B, 0xB4C),
  (0xB57, 0xB57), (0xB5C, 0xB5D), (0xB5F, 0xB61), (0xB66, 0xB70), (0xB83, 0xB83), (0xB85, 0xB8A),
  (0xB8E, 0xB90), (0xB92, 0xB95), (0xB99, 0xB9A), (0xB9C, 0xB9C), (0xB9E, 0xB9F), (0xBA3, 0xBA4),
  (0xBA8, 0xBAA), (0xBAE, 0xBB5), (0xBB7, 0xBB9), (0xBBE, 0xBBF), (0xBC1, 0xBC2), (0xBC6, 0xBC8),
  (0xBCA, 0xBCC), (0xBD7, 0xBD7), (0xBE7, 0xBF2), (0xC01, 0xC03), (0xC05, 0xC0C), (0xC0E, 0xC10),
  (0xC12, 0xC28), (0xC2A, 0xC33), (0xC35, 0xC39), (0xC41, 0xC44), (0xC60, 0xC61), (0xC66, 0xC6F),
  (0xC82, 0xC83), (0xC85, 0xC8C), (0xC8E, 0xC90), (0xC92, 0xCA8), (0xCAA, 0xCB3), (0xCB5, 0xCB9),
  (0xCBE, 0xCBE), (0xCC0, 0xCC4), (0xCC7, 0xCC8), (0xCCA, 0xCCB), (0xCD5, 0xCD6), (0xCDE, 0xCDE),
  (0xCE0, 0xCE1), (0xCE6, 0xCEF), (0xD02, 0xD03), (0xD05, 0xD0C), (0xD0E, 0xD10), (0xD12, 0xD28),
  (0xD2A, 0xD39), (0xD3E, 0xD40), (0xD46, 0xD48), (0xD4A, 0xD4C), (0xD57, 0xD57), (0xD60, 0xD61),
  (0xD66, 0xD6F), (0xD82, 0xD83), (0xD85, 0xD96), (0xD9A, 0xDB1), (0xDB3, 0xDBB), (0xDBD, 0xDBD),
  (0xDC0, 0xDC6), (0xDCF, 0xDD1), (0xDD8, 0xDDF), (0xDF2, 0xDF4), (0xE01, 0xE30), (0xE32, 0xE33),
  (0xE40, 0xE46), (0xE4F, 0xE5B), (0xE81, 0xE82), (0xE84, 0xE84), (0xE87, 0xE88), (0xE8A, 0xE8A),
  (0xE8D, 0xE8D), (0xE94, 0xE97), (0xE99, 0xE9F), (0xEA1, 0xEA3), (0xEA5, 0xEA5), (0xEA7, 0xEA7),
  (0xEAA, 0xEAB), (0xEAD, 0xEB0), (0xEB2, 0xEB3), (0xEBD, 0xEBD), (0xEC0, 0xEC4), (0xEC6, 0xEC6),
  (0xED0, 0xED9), (0xEDC, 0xEDD), (0xF00, 0xF17), (0xF1A, 0xF34), (0xF36, 0xF36), (0xF38, 0xF38),
  (0xF3E, 0xF47), (0xF49, 0xF6A), (0xF7F, 0xF7F), (0xF85, 0xF85), (0xF88, 0xF8B), (0xFBE, 0xFC5),
  (0xFC7, 0xFCC), (0xFCF, 0xFCF), (0x1000, 0x1021), (0x1023, 0x1027), (0x1029, 0x102A), (0x102C, 0x102C),
  (0x1031, 0x1031), (0x1038, 0x1038), (0x1040, 0x1057), (0x10A0, 0x10C5), (0x10D0, 0x10F8), (0x10FB, 0x10FB),
  (0x1100, 0x1159), (0x115F, 0x11A2), (0x11A8, 0x11F9), (0x1200, 0x1206), (0x1208, 0x1246), (0x1248, 0x1248),
  (0x124A, 0x124D), (0x1250, 0x1256), (0x1258, 0x1258), (0x125A, 0x125D), (0x1260, 0x1286), (0x1288, 0x1288),
  (0x128A, 0x128D), (0x1290, 0x12AE), (0x12B0, 0x12B0), (0x12B2, 0x12B5), (0x12B8, 0x12BE), (0x12C0, 0x12C0),
  (0x12C2, 0x12C5), (0x12C8, 0x12CE), (0x12D0, 0x12D6), (0x12D8, 0x12EE), (0x12F0, 0x130E), (0x1310, 0x1310),
  (0x1312, 0x1315), (0x1318, 0x131E), (0x1320, 0x1346), (0x1348, 0x135A), (0x1361, 0x137C), (0x13A0, 0x13F4),
  (0x1401, 0x1676), (0x1681, 0x169A), (0x16A0, 0x16F0), (0x1700, 0x170C), (0x170E, 0x1711), (0x1720, 0x1731),
  (0x1735, 0x1736), (0x1740, 0x1751), (0x1760, 0x176C), (0x176E, 0x1770), (0x1780, 0x17B6), (0x17BE, 0x17C5),
  (0x17C7, 0x17C8), (0x17D4, 0x17DA), (0x17DC, 0x17DC), (0x17E0, 0x17E9), (0x1810, 0x1819), (0x1820, 0x1877),
  (0x1880, 0x18A8), (0x1E00, 0x1E9B), (0x1EA0, 0x1EF9), (0x1F00, 0x1F15), (0x1F18, 0x1F1D), (0x1F20, 0x1F45),
  (0x1F48, 0x1F4D), (0x1F50, 0x1F57), (0x1F59, 0x1F59), (0x1F5B, 0x1F5B), (0x1F5D, 0x1F5D), (0x1F5F, 0x1F7D),
  (0x1F80, 0x1FB4), (0x1FB6, 0x1FBC), (0x1FBE, 0x1FBE), (0x1FC2, 0x1FC4), (0x1FC6, 0x1FCC), (0x1FD0, 0x1FD3),
  (0x1FD6, 0x1FDB), (0x1FE0, 0x1FEC), (0x1FF2, 0x1FF4), (0x1FF6, 0x1FFC), (0x200E, 0x200E), (0x2071, 0x2071),
  (0x207F, 0x207F), (0x2102, 0x2102), (0x2107, 0x2107), (0x210A, 0x2113), (0x2115, 0x2115), (0x2119, 0x211D),
  (0x2124, 0x2124), (0x2126, 0x2126), (0x2128, 0x2128), (0x212A, 0x212D), (0x212F, 0x2131), (0x2133, 0x2139),
  (0x213D, 0x213F), (0x2145, 0x2149), (0x2160, 0x2183), (0x2336, 0x237A), (0x2395, 0x2395), (0x249C, 0x24E9),
  (0x3005, 0x3007), (0x3021, 0x3029), (0x3031, 0x3035), (0x3038, 0x303C), (0x3041, 0x3096), (0x309D, 0x309F),
  (0x30A1, 0x30FA), (0x30FC, 0x30FF), (0x3105, 0x312C), (0x3131, 0x318E), (0x3190, 0x31B7), (0x31F0, 0x321C),
  (0x3220, 0x3243), (0x3260, 0x327B), (0x327F, 0x32B0), (0x32C0, 0x32CB), (0x32D0, 0x32FE), (0x3300, 0x3376),
  (0x337B, 0x33DD), (0x33E0, 0x33FE), (0x3400, 0x4DB5), (0x4E00, 0x9FA5), (0xA000, 0xA48C), (0xAC00, 0xD7A3),
  (0xE000, 0xFA2D), (0xFA30, 0xFA6A), (0xFB00, 0xFB06), (0xFB13, 0xFB17), (0xFF21, 0xFF3A), (0xFF41, 0xFF5A),
  (0xFF66, 0xFFBE), (0xFFC2, 0xFFC7), (0xFFCA, 0xFFCF), (0xFFD2, 0xFFD7), (0xFFDA, 0xFFDC), (0x10300, 0x1031E),
  (0x10320, 0x10323), (0x10330, 0x1034A), (0x10400, 0x10425), (0x10428, 0x1044D), (0x1D000, 0x1D0F5), (0x1D100, 0x1D126),
  (0x1D12A, 0x1D166), (0x1D16A, 0x1D172), (0x1D183, 0x1D184), (0x1D18C, 0x1D1A9), (0x1D1AE, 0x1D1DD), (0x1D400, 0x1D454),
  (0x1D456, 0x1D49C), (0x1D49E, 0x1D49F), (0x1D4A2, 0x1D4A2), (0x1D4A5, 0x1D4A6), (0x1D4A9, 0x1D4AC), (0x1D4AE, 0x1D4B9),
  (0x1D4BB, 0x1D4BB), (0x1D4BD, 0x1D4C0), (0x1D4C2, 0x1D4C3), (0x1D4C5, 0x1D505), (0x1D507, 0x1D50A), (0x1D50D, 0x1D514),
  (0x1D516, 0x1D51C), (0x1D51E, 0x1D539), (0x1D53B, 0x1D53E), (0x1D540, 0x1D544), (0x1D546, 0x1D546), (0x1D54A, 0x1D550),
  (0x1D552, 0x1D6A3), (0x1D6A8, 0x1D7C9), (0x20000, 0x2A6D6), (0x2F800, 0x2FA1D), (0xF0000, 0xFFFFD), (0x100000, 0x10FFFD)]

end Weave.Text.Stringprep
