/-! # Characters by name

A character may be written by its name, as the Unicode character database of Unicode 14
names it, or by one of the aliases that correct or abbreviate a name. Names are matched
without regard to the case of ASCII letters.
-/

namespace Weave.Text

/-- The names of the characters that have one, other than ideographs and syllables. -/
def characterNames : String :=
  String.join [
  "#20ÀSPACEÀEXCLAMATION MARKÀQUOTATION MARKÀNUMBER SIGNÀDOLLAR SIGNÀPERCENT SIGNÀAMPERSANDÁPOSTROP",
  "HEÀLEFT PARENTHESISÀRIGHT PARENTHESISÀASTERISKÀPLUS SIGNÀCOMMAÀHYPHEN-MINUSÀFULL STOPÀSOLIDUSÀDI",
  "GIT ZEROÆONEÆTWOÇHREEÆFOURÇIVEÆSIXÇEVENÆEIGHTÆNINEÀCOLONÀSEMICOLONÀLESS-THAN SIGNÀEQUALS SIGNÀGR",
  "EATER-THAN SIGNÀQUESTION MARKÀCOMMERCIAL ATÀLATIN CAPITAL LETTER AÕBÕCÕDÕEÕFÕGÕHÕIÕJÕKÕLÕMÕNÕOÕP",
  "ÕQÕRÕSÕTÕUÕVÕWÕXÕYÕZÁEFT SQUARE BRACKETÀREVERSE SOLIDUSÁIGHT SQUARE BRACKETÀCIRCUMFLEX ACCENTÀLO",
  "W LINEÀGRAVE ACCENTÀLATIN SMALL LETTER AÓBÓCÓDÓEÓFÓGÓHÓIÓJÓKÓLÓMÓNÓOÓPÓQÓRÓSÓTÓUÓVÓWÓXÓYÓZÁEFT C",
  "URLY BRACKETÀVERTICAL LINEÀRIGHT CURLY BRACKETÀTILDE#A0ÀNO-BREAK SPACEÀINVERTED EXCLAMATION MARK",
  "ÀCENT SIGNÀPOUND SIGNÀCURRENCY SIGNÀYEN SIGNÀBROKEN BARÀSECTION SIGNÀDIAERESISÀCOPYRIGHT SIGNÀFE",
  "MININE ORDINAL INDICATORÀLEFT-POINTING DOUBLE ANGLE QUOTATION MARKÀNOT SIGNÀSOFT HYPHENÀREGISTER",
  "ED SIGNÀMACRONÀDEGREE SIGNÀPLUS-MINUS SIGNÀSUPERSCRIPT TWOÍHREEÀACUTE ACCENTÀMICRO SIGNÀPILCROW ",
  "SIGNÀMIDDLE DOTÀCEDILLAÀSUPERSCRIPT ONEÀMASCULINE ORDINAL INDICATORÀRIGHT-POINTING DOUBLE ANGLE ",
  "QUOTATION MARKÀVULGAR FRACTION ONE QUARTERÔHALFÐTHREE QUARTERSÀINVERTED QUESTION MARKÀLATIN CAPI",
  "TAL LETTER A WITH GRAVEÜACUTEÜCIRCUMFLEXÜTILDEÜDIAERESISÜRING ABOVEÖEÕC WITH CEDILLAÕE WITH GRAV",
  "EÜACUTEÜCIRCUMFLEXÜDIAERESISÕI WITH GRAVEÜACUTEÜCIRCUMFLEXÜDIAERESISÕETHÕN WITH TILDEÕO WITH GRA",
  "VEÜACUTEÜCIRCUMFLEXÜTILDEÜDIAERESISÀMULTIPLICATION SIGNÀLATIN CAPITAL LETTER O WITH STROKEÕU WIT",
  "H GRAVEÜACUTEÜCIRCUMFLEXÜDIAERESISÕY WITH ACUTEÕTHORNÆSMALL LETTER SHARP SÓA WITH GRAVEÚACUTEÚCI",
  "RCUMFLEXÚTILDEÚDIAERESISÚRING ABOVEÔEÓC WITH CEDILLAÓE WITH GRAVEÚACUTEÚCIRCUMFLEXÚDIAERESISÓI W",
  "ITH GRAVEÚACUTEÚCIRCUMFLEXÚDIAERESISÓETHÓN WITH TILDEÓO WITH GRAVEÚACUTEÚCIRCUMFLEXÚTILDEÚDIAERE",
  "SISÀDIVISION SIGNÀLATIN SMALL LETTER O WITH STROKEÓU WITH GRAVEÚACUTEÚCIRCUMFLEXÚDIAERESISÓY WIT",
  "H ACUTEÓTHORNÓY WITH DIAERESISÆCAPITAL LETTER A WITH MACRONÆSMALL LETTER A WITH MACRONÆCAPITAL L",
  "ETTER A WITH BREVEÆSMALL LETTER A WITH BREVEÆCAPITAL LETTER A WITH OGONEKÆSMALL LETTER A WITH OG",
  "ONEKÆCAPITAL LETTER C WITH ACUTEÆSMALL LETTER C WITH ACUTEÆCAPITAL LETTER C WITH CIRCUMFLEXÆSMAL",
  "L LETTER C WITH CIRCUMFLEXÆCAPITAL LETTER C WITH DOT ABOVEÆSMALL LETTER C WITH DOT ABOVEÆCAPITAL ",
  "LETTER C WITH CARONÆSMALL LETTER C WITH CARONÆCAPITAL LETTER D WITH CARONÆSMALL LETTER D WITH CA",
  "RONÆCAPITAL LETTER D WITH STROKEÆSMALL LETTER D WITH STROKEÆCAPITAL LETTER E WITH MACRONÆSMALL L",
  "ETTER E WITH MACRONÆCAPITAL LETTER E WITH BREVEÆSMALL LETTER E WITH BREVEÆCAPITAL LETTER E WITH ",
  "DOT ABOVEÆSMALL LETTER E WITH DOT ABOVEÆCAPITAL LETTER E WITH OGONEKÆSMALL LETTER E WITH OGONEKÆ",
  "CAPITAL LETTER E WITH CARONÆSMALL LETTER E WITH CARONÆCAPITAL LETTER G WITH CIRCUMFLEXÆSMALL LET",
  "TER G WITH CIRCUMFLEXÆCAPITAL LETTER G WITH BREVEÆSMALL LETTER G WITH BREVEÆCAPITAL LETTER G WIT",
  "H DOT ABOVEÆSMALL LETTER G WITH DOT ABOVEÆCAPITAL LETTER G WITH CEDILLAÆSMALL LETTER G WITH CEDI",
  "LLAÆCAPITAL LETTER H WITH CIRCUMFLEXÆSMALL LETTER H WITH CIRCUMFLEXÆCAPITAL LETTER H WITH STROKE",
  "ÆSMALL LETTER H WITH STROKEÆCAPITAL LETTER I WITH TILDEÆSMALL LETTER I WITH TILDEÆCAPITAL LETTER ",
  "I WITH MACRONÆSMALL LETTER I WITH MACRONÆCAPITAL LETTER I WITH BREVEÆSMALL LETTER I WITH BREVEÆC",
  "APITAL LETTER I WITH OGONEKÆSMALL LETTER I WITH OGONEKÆCAPITAL LETTER I WITH DOT ABOVEÆSMALL LET",
  "TER DOTLESS IÆCAPITAL LIGATURE IJÆSMALL LIGATURE IJÆCAPITAL LETTER J WITH CIRCUMFLEXÆSMALL LETTE",
  "R J WITH CIRCUMFLEXÆCAPITAL LETTER K WITH CEDILLAÆSMALL LETTER K WITH CEDILLAÔRAÆCAPITAL LETTER ",
  "L WITH ACUTEÆSMALL LETTER L WITH ACUTEÆCAPITAL LETTER L WITH CEDILLAÆSMALL LETTER L WITH CEDILLA",
  "ÆCAPITAL LETTER L WITH CARONÆSMALL LETTER L WITH CARONÆCAPITAL LETTER L WITH MIDDLE DOTÆSMALL LE",
  "TTER L WITH MIDDLE DOTÆCAPITAL LETTER L WITH STROKEÆSMALL LETTER L WITH STROKEÆCAPITAL LETTER N ",
  "WITH ACUTEÆSMALL LETTER N WITH ACUTEÆCAPITAL LETTER N WITH CEDILLAÆSMALL LETTER N WITH CEDILLAÆC",
  "APITAL LETTER N WITH CARONÆSMALL LETTER N WITH CARONÕPRECEDED BY APOSTROPHEÆCAPITAL LETTER ENGÆS",
  "MALL LETTER ENGÆCAPITAL LETTER O WITH MACRONÆSMALL LETTER O WITH MACRONÆCAPITAL LETTER O WITH BR",
  "EVEÆSMALL LETTER O WITH BREVEÆCAPITAL LETTER O WITH DOUBLE ACUTEÆSMALL LETTER O WITH DOUBLE ACUT",
  "EÆCAPITAL LIGATURE OEÆSMALL LIGATURE OEÆCAPITAL LETTER R WITH ACUTEÆSMALL LETTER R WITH ACUTEÆCA",
  "PITAL LETTER R WITH CEDILLAÆSMALL LETTER R WITH CEDILLAÆCAPITAL LETTER R WITH CARONÆSMALL LETTER ",
  "R WITH CARONÆCAPITAL LETTER S WITH ACUTEÆSMALL LETTER S WITH ACUTEÆCAPITAL LETTER S WITH CIRCUMF",
  "LEXÆSMALL LETTER S WITH CIRCUMFLEXÆCAPITAL LETTER S WITH CEDILLAÆSMALL LETTER S WITH CEDILLAÆCAP",
  "ITAL LETTER S WITH CARONÆSMALL LETTER S WITH CARONÆCAPITAL LETTER T WITH CEDILLAÆSMALL LETTER T ",
  "WITH CEDILLAÆCAPITAL LETTER T WITH CARONÆSMALL LETTER T WITH CARONÆCAPITAL LETTER T WITH STROKEÆ",
  "SMALL LETTER T WITH STROKEÆCAPITAL LETTER U WITH TILDEÆSMALL LETTER U WITH TILDEÆCAPITAL LETTER ",
  "U WITH MACRONÆSMALL LETTER U WITH MACRONÆCAPITAL LETTER U WITH BREVEÆSMALL LETTER U WITH BREVEÆC",
  "APITAL LETTER U WITH RING ABOVEÆSMALL LETTER U WITH RING ABOVEÆCAPITAL LETTER U WITH DOUBLE ACUT",
  "EÆSMALL LETTER U WITH DOUBLE ACUTEÆCAPITAL LETTER U WITH OGONEKÆSMALL LETTER U WITH OGONEKÆCAPIT",
  "AL LETTER W WITH CIRCUMFLEXÆSMALL LETTER W WITH CIRCUMFLEXÆCAPITAL LETTER Y WITH CIRCUMFLEXÆSMAL",
  "L LETTER Y WITH CIRCUMFLEXÆCAPITAL LETTER Y WITH DIAERESISÕZ WITH ACUTEÆSMALL LETTER Z WITH ACUT",
  "EÆCAPITAL LETTER Z WITH DOT ABOVEÆSMALL LETTER Z WITH DOT ABOVEÆCAPITAL LETTER Z WITH CARONÆSMAL",
  "L LETTER Z WITH CARONÓLONG SÓB WITH STROKEÆCAPITAL LETTER B WITH HOOKÜTOPBARÆSMALL LETTER B WITH ",
  "TOPBARÆCAPITAL LETTER TONE SIXÆSMALL LETTER TONE SIXÆCAPITAL LETTER OPEN OÕC WITH HOOKÆSMALL LET",
  "TER C WITH HOOKÆCAPITAL LETTER AFRICAN DÕD WITH HOOKÜTOPBARÆSMALL LETTER D WITH TOPBARÓTURNED DE",
  "LTAÆCAPITAL LETTER REVERSED EÕSCHWAÕOPEN EÕF WITH HOOKÆSMALL LETTER F WITH HOOKÆCAPITAL LETTER G ",
  "WITH HOOKÖAMMAÆSMALL LETTER HVÆCAPITAL LETTER IOTAÖ WITH STROKEÕK WITH HOOKÆSMALL LETTER K WITH ",
  "HOOKÓL WITH BARÔAMBDA WITH STROKEÆCAPITAL LETTER TURNED MÕN WITH LEFT HOOKÆSMALL LETTER N WITH L",
  "ONG RIGHT LEGÆCAPITAL LETTER O WITH MIDDLE TILDEÜHORNÆSMALL LETTER O WITH HORNÆCAPITAL LETTER OI",
  "ÆSMALL LETTER OIÆCAPITAL LETTER P WITH HOOKÆSMALL LETTER P WITH HOOKÆLETTER YRÆCAPITAL LETTER TO",
  "NE TWOÆSMALL LETTER TONE TWOÆCAPITAL LETTER ESHÆLETTER REVERSED ESH LOOPÆSMALL LETTER T WITH PAL",
  "ATAL HOOKÆCAPITAL LETTER T WITH HOOKÆSMALL LETTER T WITH HOOKÆCAPITAL LETTER T WITH RETROFLEX HO",
  "OKÕU WITH HORNÆSMALL LETTER U WITH HORNÆCAPITAL LETTER UPSILONÕV WITH HOOKÕY WITH HOOKÆSMALL LET",
  "TER Y WITH HOOKÆCAPITAL LETTER Z WITH STROKEÆSMALL LETTER Z WITH STROKEÆCAPITAL LETTER EZHØ REVE",
  "RSEDÆSMALL LETTER EZH REVERSED×WITH TAILÆLETTER TWO WITH STROKEÆCAPITAL LETTER TONE FIVEÆSMALL L",
  "ETTER TONE FIVEÆLETTER INVERTED GLOTTAL STOP WITH STROKEÍWYNNÍDENTAL CLICKÍLATERAL CLICKÍALVEOLA",
  "R CLICKÍRETROFLEX CLICKÆCAPITAL LETTER DZ WITH CARONÖ WITH SMALL LETTER Z WITH CARONÆSMALL LETTE",
  "R DZ WITH CARONÆCAPITAL LETTER LJÖ WITH SMALL LETTER JÆSMALL LETTER LJÆCAPITAL LETTER NJÖ WITH S",
  "MALL LETTER JÆSMALL LETTER NJÆCAPITAL LETTER A WITH CARONÆSMALL LETTER A WITH CARONÆCAPITAL LETT",
  "ER I WITH CARONÆSMALL LETTER I WITH CARONÆCAPITAL LETTER O WITH CARONÆSMALL LETTER O WITH CARONÆ",
  "CAPITAL LETTER U WITH CARONÆSMALL LETTER U WITH CARONÆCAPITAL LETTER U WITH DIAERESIS AND MACRON",
  "ÆSMALL LETTER U WITH DIAERESIS AND MACRONÆCAPITAL LETTER U WITH DIAERESIS AND ACUTEÆSMALL LETTER ",
  "U WITH DIAERESIS AND ACUTEÆCAPITAL LETTER U WITH DIAERESIS AND CARONÆSMALL LETTER U WITH DIAERES",
  "IS AND CARONÆCAPITAL LETTER U WITH DIAERESIS AND GRAVEÆSMALL LETTER U WITH DIAERESIS AND GRAVEÓT",
  "URNED EÆCAPITAL LETTER A WITH DIAERESIS AND MACRONÆSMALL LETTER A WITH DIAERESIS AND MACRONÆCAPI",
  "TAL LETTER A WITH DOT ABOVE AND MACRONÆSMALL LETTER A WITH DOT ABOVE AND MACRONÆCAPITAL LETTER A",
  "E WITH MACRONÆSMALL LETTER AE WITH MACRONÆCAPITAL LETTER G WITH STROKEÆSMALL LETTER G WITH STROK",
  "EÆCAPITAL LETTER G WITH CARONÆSMALL LETTER G WITH CARONÆCAPITAL LETTER K WITH CARONÆSMALL LETTER ",
  "K WITH CARONÆCAPITAL LETTER O WITH OGONEKÆSMALL LETTER O WITH OGONEKÆCAPITAL LETTER O WITH OGONE",
  "K AND MACRONÆSMALL LETTER O WITH OGONEK AND MACRONÆCAPITAL LETTER EZH WITH CARONÆSMALL LETTER EZ",
  "H WITH CARONÓJ WITH CARONÆCAPITAL LETTER DZÖ WITH SMALL LETTER ZÆSMALL LETTER DZÆCAPITAL LETTER ",
  "G WITH ACUTEÆSMALL LETTER G WITH ACUTEÆCAPITAL LETTER HWAIRÕWYNNÕN WITH GRAVEÆSMALL LETTER N WIT",
  "H GRAVEÆCAPITAL LETTER A WITH RING ABOVE AND ACUTEÆSMALL LETTER A WITH RING ABOVE AND ACUTEÆCAPI",
  "TAL LETTER AE WITH ACUTEÆSMALL LETTER AE WITH ACUTEÆCAPITAL LETTER O WITH STROKE AND ACUTEÆSMALL ",
  "LETTER O WITH STROKE AND ACUTEÆCAPITAL LETTER A WITH DOUBLE GRAVEÆSMALL LETTER A WITH DOUBLE GRA",
  "VEÆCAPITAL LETTER A WITH INVERTED BREVEÆSMALL LETTER A WITH INVERTED BREVEÆCAPITAL LETTER E WITH ",
  "DOUBLE GRAVEÆSMALL LETTER E WITH DOUBLE GRAVEÆCAPITAL LETTER E WITH INVERTED BREVEÆSMALL LETTER ",
  "E WITH INVERTED BREVEÆCAPITAL LETTER I WITH DOUBLE GRAVEÆSMALL LETTER I WITH DOUBLE GRAVEÆCAPITA",
  "L LETTER I WITH INVERTED BREVEÆSMALL LETTER I WITH INVERTED BREVEÆCAPITAL LETTER O WITH DOUBLE G",
  "RAVEÆSMALL LETTER O WITH DOUBLE GRAVEÆCAPITAL LETTER O WITH INVERTED BREVEÆSMALL LETTER O WITH I",
  "NVERTED BREVEÆCAPITAL LETTER R WITH DOUBLE GRAVEÆSMALL LETTER R WITH DOUBLE GRAVEÆCAPITAL LETTER ",
  "R WITH INVERTED BREVEÆSMALL LETTER R WITH INVERTED BREVEÆCAPITAL LETTER U WITH DOUBLE GRAVEÆSMAL",
  "L LETTER U WITH DOUBLE GRAVEÆCAPITAL LETTER U WITH INVERTED BREVEÆSMALL LETTER U WITH INVERTED B",
  "REVEÆCAPITAL LETTER S WITH COMMA BELOWÆSMALL LETTER S WITH COMMA BELOWÆCAPITAL LETTER T WITH COM",
  "MA BELOWÆSMALL LETTER T WITH COMMA BELOWÆCAPITAL LETTER YOGHÆSMALL LETTER YOGHÆCAPITAL LETTER H ",
  "WITH CARONÆSMALL LETTER H WITH CARONÆCAPITAL LETTER N WITH LONG RIGHT LEGÆSMALL LETTER D WITH CU",
  "RLÆCAPITAL LETTER OUÆSMALL LETTER OUÆCAPITAL LETTER Z WITH HOOKÆSMALL LETTER Z WITH HOOKÆCAPITAL ",
  "LETTER A WITH DOT ABOVEÆSMALL LETTER A WITH DOT ABOVEÆCAPITAL LETTER E WITH CEDILLAÆSMALL LETTER ",
  "E WITH CEDILLAÆCAPITAL LETTER O WITH DIAERESIS AND MACRONÆSMALL LETTER O WITH DIAERESIS AND MACR",
  "ONÆCAPITAL LETTER O WITH TILDE AND MACRONÆSMALL LETTER O WITH TILDE AND MACRONÆCAPITAL LETTER O ",
  "WITH DOT ABOVEÆSMALL LETTER O WITH DOT ABOVEÆCAPITAL LETTER O WITH DOT ABOVE AND MACRONÆSMALL LE",
  "TTER O WITH DOT ABOVE AND MACRONÆCAPITAL LETTER Y WITH MACRONÆSMALL LETTER Y WITH MACRONÓL WITH ",
  "CURLÓN WITH CURLÓT WITH CURLÓDOTLESS JÔB DIGRAPHÓQP DIGRAPHÆCAPITAL LETTER A WITH STROKEÕC WITH ",
  "STROKEÆSMALL LETTER C WITH STROKEÆCAPITAL LETTER L WITH BARÕT WITH DIAGONAL STROKEÆSMALL LETTER ",
  "S WITH SWASH TAILÓZ WITH SWASH TAILÆCAPITAL LETTER GLOTTAL STOPÆSMALL LETTER GLOTTAL STOPÆCAPITA",
  "L LETTER B WITH STROKEÕU BARÕTURNED VÕE WITH STROKEÆSMALL LETTER E WITH STROKEÆCAPITAL LETTER J ",
  "WITH STROKEÆSMALL LETTER J WITH STROKEÆCAPITAL LETTER SMALL Q WITH HOOK TAILÆSMALL LETTER Q WITH ",
  "HOOK TAILÆCAPITAL LETTER R WITH STROKEÆSMALL LETTER R WITH STROKEÆCAPITAL LETTER Y WITH STROKEÆS",
  "MALL LETTER Y WITH STROKEÓTURNED AÓALPHAÓTURNED ALPHAÓB WITH HOOKÓOPEN OÓC WITH CURLÓD WITH TAIL",
  "ÚHOOKÓREVERSED EÓSCHWAØ WITH HOOKÓOPEN EÓREVERSED OPEN Eâ WITH HOOKÓCLOSED REVERSED OPEN EÓDOTLE",
  "SS J WITH STROKEÓG WITH HOOKÓSCRIPT GÆLETTER SMALL CAPITAL GÆSMALL LETTER GAMMAÓRAMS HORNÓTURNED ",
  "HÓH WITH HOOKÔENG WITH HOOKÓI WITH STROKEÔOTAÆLETTER SMALL CAPITAL IÆSMALL LETTER L WITH MIDDLE ",
  "TILDEÚBELTÚRETROFLEX HOOKÔEZHÓTURNED MÛ WITH LONG LEGÓM WITH HOOKÓN WITH LEFT HOOKÚRETROFLEX HOO",
  "KÆLETTER SMALL CAPITAL NÆSMALL LETTER BARRED OÆLETTER SMALL CAPITAL OEÆSMALL LETTER CLOSED OMEGA",
  "ÓPHIÓTURNED RÛ WITH LONG LEGáHOOKÓR WITH LONG LEGÚTAILÚFISHHOOKÔEVERSED R WITH FISHHOOKÆLETTER S",
  "MALL CAPITAL RÛINVERTED RÆSMALL LETTER S WITH HOOKÓESHÓDOTLESS J WITH STROKE AND HOOKÓSQUAT REVE",
  "RSED ESHÓESH WITH CURLÓTURNED TÔ WITH RETROFLEX HOOKÓU BARÔPSILONÓV WITH HOOKÓTURNED VÚWÚYÆLETTE",
  "R SMALL CAPITAL YÆSMALL LETTER Z WITH RETROFLEX HOOKÚCURLÓEZHÖ WITH CURLÆLETTER GLOTTAL STOPÍPHA",
  "RYNGEAL VOICED FRICATIVEÍINVERTED GLOTTAL STOPÍSTRETCHED CÍBILABIAL CLICKÍSMALL CAPITAL BÆSMALL ",
  "LETTER CLOSED OPEN EÆLETTER SMALL CAPITAL G WITH HOOKÛHÆSMALL LETTER J WITH CROSSED-TAILÓTURNED ",
  "KÆLETTER SMALL CAPITAL LÆSMALL LETTER Q WITH HOOKÆLETTER GLOTTAL STOP WITH STROKEÍREVERSED GLOTT",
  "AL STOP WITH STROKEÆSMALL LETTER DZ DIGRAPHÔEZH DIGRAPHÔZ DIGRAPH WITH CURLÓTS DIGRAPHÔESH DIGRA",
  "PHÔC DIGRAPH WITH CURLÓFENG DIGRAPHÓLS DIGRAPHÔZ DIGRAPHÆLETTER BILABIAL PERCUSSIVEÏDENTAL PERCU",
  "SSIVEÆSMALL LETTER TURNED H WITH FISHHOOKé AND TAILÀMODIFIER LETTER SMALL H× WITH HOOKÖJÖRÖTURNE",
  "D RÞ WITH HOOKÖCAPITAL INVERTED RÖWÖYÐPRIMEÐDOUBLE PRIMEÐTURNED COMMAÐAPOSTROPHEÐREVERSED COMMAÑ",
  "IGHT HALF RINGÐLEFT HALF RINGÐGLOTTAL STOPÐREVERSED GLOTTAL STOPÐLEFT ARROWHEADÐRIGHT ARROWHEADÐ",
  "UP ARROWHEADÐDOWN ARROWHEADÐCIRCUMFLEX ACCENTÀCARONÀMODIFIER LETTER VERTICAL LINEÐMACRONÐACUTE A",
  "CCENTÐGRAVE ACCENTÐLOW VERTICAL LINEÔMACRONÔGRAVE ACCENTÔACUTE ACCENTÐTRIANGULAR COLONÐHALF TRIA",
  "NGULAR COLONÐCENTRED RIGHT HALF RINGØLEFT HALF RINGÐUP TACKÐDOWN TACKÐPLUS SIGNÐMINUS SIGNÀBREVE",
  "ÀDOT ABOVEÀRING ABOVEÀOGONEKÀSMALL TILDEÀDOUBLE ACUTE ACCENTÀMODIFIER LETTER RHOTIC HOOKÐCROSS A",
  "CCENTÐSMALL GAMMAÖLÖSÖXÖREVERSED GLOTTAL STOPÐEXTRA-HIGH TONE BARÐHIGH TONE BARÐMID TONE BARÐLOW ",
  "TONE BARÐEXTRA-LOW TONE BARÐYIN DEPARTING TONE MARKÑANG DEPARTING TONE MARKÐVOICINGÐUNASPIRATEDÐ",
  "DOUBLE APOSTROPHEÐLOW DOWN ARROWHEADÔUP ARROWHEADÔLEFT ARROWHEADÔRIGHT ARROWHEADÖNGÐMIDDLE GRAVE ",
  "ACCENT×DOUBLE GRAVE ACCENTÞACUTE ACCENTÐLOW TILDEÐRAISED COLONÐBEGIN HIGH TONEÐEND HIGH TONEÐBEG",
  "IN LOW TONEÐEND LOW TONEÐSHELFÐOPEN SHELFÐLOW LEFT ARROWÀCOMBINING GRAVE ACCENTÊACUTE ACCENTÊCIR",
  "CUMFLEX ACCENTÊTILDEÊMACRONÊOVERLINEÊBREVEÊDOT ABOVEËIAERESISÊHOOK ABOVEÊRING ABOVEÊDOUBLE ACUTE ",
  "ACCENTÊCARONÊVERTICAL LINE ABOVEÊDOUBLE VERTICAL LINE ABOVEÑGRAVE ACCENTÊCANDRABINDUÊINVERTED BR",
  "EVEÊTURNED COMMA ABOVEÊCOMMA ABOVEÊREVERSED COMMA ABOVEÊCOMMA ABOVE RIGHTÊGRAVE ACCENT BELOWÊACU",
  "TE ACCENT BELOWÊLEFT TACK BELOWÊRIGHT TACK BELOWÊLEFT ANGLE ABOVEÊHORNÊLEFT HALF RING BELOWÊUP T",
  "ACK BELOWÊDOWN TACK BELOWÊPLUS SIGN BELOWÊMINUS SIGN BELOWÊPALATALIZED HOOK BELOWÊRETROFLEX HOOK ",
  "BELOWÊDOT BELOWËIAERESIS BELOWÊRING BELOWÊCOMMA BELOWËEDILLAÊOGONEKÊVERTICAL LINE BELOWÊBRIDGE B",
  "ELOWÊINVERTED DOUBLE ARCH BELOWÊCARON BELOWËIRCUMFLEX ACCENT BELOWÊBREVE BELOWÊINVERTED BREVE BE",
  "LOWÊTILDE BELOWÊMACRON BELOWÊLOW LINEÊDOUBLE LOW LINEÊTILDE OVERLAYÊSHORT STROKE OVERLAYÊLONG ST",
  "ROKE OVERLAYÊSHORT SOLIDUS OVERLAYÊLONG SOLIDUS OVERLAYÊRIGHT HALF RING BELOWÊINVERTED BRIDGE BE",
  "LOWÊSQUARE BELOWËEAGULL BELOWÊX ABOVEÊVERTICAL TILDEÊDOUBLE OVERLINEÊGRAVE TONE MARKÊACUTE TONE ",
  "MARKÊGREEK PERISPOMENIÐKORONISÐDIALYTIKA TONOSÐYPOGEGRAMMENIÊBRIDGE ABOVEÊEQUALS SIGN BELOWÊDOUB",
  "LE VERTICAL LINE BELOWÊLEFT ANGLE BELOWÊNOT TILDE ABOVEÊHOMOTHETIC ABOVEÊALMOST EQUAL TO ABOVEÊL",
  "EFT RIGHT ARROW BELOWÊUPWARDS ARROW BELOWÊGRAPHEME JOINERÊRIGHT ARROWHEAD ABOVEÊLEFT HALF RING A",
  "BOVEÊFERMATAÊX BELOWÊLEFT ARROWHEAD BELOWÊRIGHT ARROWHEAD BELOWÚAND UP ARROWHEAD BELOWÐHALF RING ",
  "ABOVEÊDOT ABOVE RIGHTÊASTERISK BELOWÊDOUBLE RING BELOWÊZIGZAG ABOVEÊDOUBLE BREVE BELOWÖÑMACRON× ",
  "BELOWÑTILDEÑINVERTED BREVEÑRIGHTWARDS ARROW BELOWÊLATIN SMALL LETTER AÝEÝIÝOÝUÝCÝDÝHÝMÝRÝTÝVÝXÀG",
  "REEK CAPITAL LETTER HETAÆSMALL LETTER HETAÆCAPITAL LETTER ARCHAIC SAMPIÆSMALL LETTER ARCHAIC SAM",
  "PIÆNUMERAL SIGNÆLOWER NUMERAL SIGNÆCAPITAL LETTER PAMPHYLIAN DIGAMMAÆSMALL LETTER PAMPHYLIAN DIG",
  "AMMA#37AÆYPOGEGRAMMENIÆSMALL REVERSED LUNATE SIGMA SYMBOLÌDOTTED LUNATE SIGMA SYMBOLÌREVERSED DO",
  "TTED LUNATE SIGMA SYMBOLÆQUESTION MARKÆCAPITAL LETTER YOT#384ÆTONOSÆDIALYTIKA TONOSÆCAPITAL LETT",
  "ER ALPHA WITH TONOSÆANO TELEIAÆCAPITAL LETTER EPSILON WITH TONOSÖTA WITH TONOSÕIOTA WITH TONOS#3",
  "8CÕOMICRON WITH TONOS#38EÕUPSILON WITH TONOSÕOMEGA WITH TONOSÆSMALL LETTER IOTA WITH DIALYTIKA A",
  "ND TONOSÆCAPITAL LETTER ALPHAÕBETAÕGAMMAÕDELTAÕEPSILONÕZETAÕETAÕTHETAÕIOTAÕKAPPAÕLAMDAÕMUÕNUÕXIÕ",
  "OMICRONÕPIÕRHO#3A3ÕSIGMAÕTAUÕUPSILONÕPHIÕCHIÕPSIÕOMEGAÕIOTA WITH DIALYTIKAÕUPSILON WITH DIALYTIK",
  "AÆSMALL LETTER ALPHA WITH TONOSÓEPSILON WITH TONOSÔTA WITH TONOSÓIOTA WITH TONOSÓUPSILON WITH DI",
  "ALYTIKA AND TONOSÓALPHAÓBETAÓGAMMAÓDELTAÓEPSILONÓZETAÓETAÓTHETAÓIOTAÓKAPPAÓLAMDAÓMUÓNUÓXIÓOMICRO",
  "NÓPIÓRHOÓFINAL SIGMAÓSIGMAÓTAUÓUPSILONÓPHIÓCHIÓPSIÓOMEGAÓIOTA WITH DIALYTIKAÓUPSILON WITH DIALYT",
  "IKAÓOMICRON WITH TONOSÓUPSILON WITH TONOSÓOMEGA WITH TONOSÆCAPITAL KAI SYMBOLÆBETA SYMBOLÆTHETA ",
  "SYMBOLÆUPSILON WITH HOOK SYMBOLÓACUTE AND HOOK SYMBOLÓDIAERESIS AND HOOK SYMBOLÆPHI SYMBOLÇI SYM",
  "BOLÆKAI SYMBOLÆLETTER ARCHAIC KOPPAÆSMALL LETTER ARCHAIC KOPPAÆLETTER STIGMAÆSMALL LETTER STIGMA",
  "ÆLETTER DIGAMMAÆSMALL LETTER DIGAMMAÆLETTER KOPPAÆSMALL LETTER KOPPAÆLETTER SAMPIÆSMALL LETTER S",
  "AMPIÀCOPTIC CAPITAL LETTER SHEIÇSMALL LETTER SHEIÇCAPITAL LETTER FEIÇSMALL LETTER FEIÇCAPITAL LE",
  "TTER KHEIÇSMALL LETTER KHEIÇCAPITAL LETTER HORIÇSMALL LETTER HORIÇCAPITAL LETTER GANGIAÇSMALL LE",
  "TTER GANGIAÇCAPITAL LETTER SHIMAÇSMALL LETTER SHIMAÇCAPITAL LETTER DEIÇSMALL LETTER DEIÀGREEK KA",
  "PPA SYMBOLÆRHO SYMBOLÆLUNATE SIGMA SYMBOLÇETTER YOTÆCAPITAL THETA SYMBOLÆLUNATE EPSILON SYMBOLÆR",
  "EVERSED LUNATE EPSILON SYMBOLÆCAPITAL LETTER SHOÆSMALL LETTER SHOÆCAPITAL LUNATE SIGMA SYMBOLÏET",
  "TER SANÆSMALL LETTER SANÆRHO WITH STROKE SYMBOLÆCAPITAL REVERSED LUNATE SIGMA SYMBOLÎDOTTED LUNA",
  "TE SIGMA SYMBOLÎREVERSED DOTTED LUNATE SIGMA SYMBOLÀCYRILLIC CAPITAL LETTER IE WITH GRAVEÙOØDJEØ",
  "GJEØUKRAINIAN IEØDZEØBYELORUSSIAN-UKRAINIAN IØYIØJEØLJEØNJEØTSHEØKJEØI WITH GRAVEØSHORT UØDZHEØA",
  "ØBEØVEØGHEØDEØIEØZHEÙEØIØSHORT IØKAØELÙMÙNØOØPEØERÙSØTEØUØEFØHAØTSEØCHEØSHAÚCHAØHARD SIGNØYERUØS",
  "OFT SIGNØEØYUÙAÉSMALL LETTER AÖBEÖVEÖGHEÖDEÖIEÖZHE×EÖIÖSHORT IÖKAÖEL×M×NÖOÖPEÖER×SÖTEÖUÖEFÖHAÖTS",
  "EÖCHEÖSHAØCHAÖHARD SIGNÖYERUÖSOFT SIGNÖEÖYU×AÖIE WITH GRAVE×OÖDJEÖGJEÖUKRAINIAN IEÖDZEÖBYELORUSS",
  "IAN-UKRAINIAN IÖYIÖJEÖLJEÖNJEÖTSHEÖKJEÖI WITH GRAVEÖSHORT UÖDZHEÉCAPITAL LETTER OMEGAÉSMALL LETT",
  "ER OMEGAÉCAPITAL LETTER YATÉSMALL LETTER YATÉCAPITAL LETTER IOTIFIED EÉSMALL LETTER IOTIFIED EÉC",
  "APITAL LETTER LITTLE YUSÉSMALL LETTER LITTLE YUSÉCAPITAL LETTER IOTIFIED LITTLE YUSÉSMALL LETTER ",
  "IOTIFIED LITTLE YUSÉCAPITAL LETTER BIG YUSÉSMALL LETTER BIG YUSÉCAPITAL LETTER IOTIFIED BIG YUSÉ",
  "SMALL LETTER IOTIFIED BIG YUSÉCAPITAL LETTER KSIÉSMALL LETTER KSIÉCAPITAL LETTER PSIÉSMALL LETTE",
  "R PSIÉCAPITAL LETTER FITAÉSMALL LETTER FITAÉCAPITAL LETTER IZHITSAÉSMALL LETTER IZHITSAÉCAPITAL ",
  "LETTER IZHITSA WITH DOUBLE GRAVE ACCENTÉSMALL LETTER IZHITSA WITH DOUBLE GRAVE ACCENTÉCAPITAL LE",
  "TTER UKÉSMALL LETTER UKÉCAPITAL LETTER ROUND OMEGAÉSMALL LETTER ROUND OMEGAÉCAPITAL LETTER OMEGA ",
  "WITH TITLOÉSMALL LETTER OMEGA WITH TITLOÉCAPITAL LETTER OTÉSMALL LETTER OTÉCAPITAL LETTER KOPPAÉ",
  "SMALL LETTER KOPPAÉTHOUSANDS SIGNÁOMBINING CYRILLIC TITLOÓPALATALIZATIONÓDASIA PNEUMATAÓPSILI PN",
  "EUMATAÔOKRYTIEÓHUNDRED THOUSANDS SIGNÓMILLIONS SIGNÁYRILLIC CAPITAL LETTER SHORT I WITH TAILÉSMA",
  "LL LETTER SHORT I WITH TAILÉCAPITAL LETTER SEMISOFT SIGNÉSMALL LETTER SEMISOFT SIGNÉCAPITAL LETT",
  "ER ER WITH TICKÉSMALL LETTER ER WITH TICKÉCAPITAL LETTER GHE WITH UPTURNÉSMALL LETTER GHE WITH U",
  "PTURNÉCAPITAL LETTER GHE WITH STROKEÉSMALL LETTER GHE WITH STROKEÉCAPITAL LETTER GHE WITH MIDDLE ",
  "HOOKÉSMALL LETTER GHE WITH MIDDLE HOOKÉCAPITAL LETTER ZHE WITH DESCENDERÉSMALL LETTER ZHE WITH D",
  "ESCENDERÉCAPITAL LETTER ZE WITH DESCENDERÉSMALL LETTER ZE WITH DESCENDERÉCAPITAL LETTER KA WITH ",
  "DESCENDERÉSMALL LETTER KA WITH DESCENDERÉCAPITAL LETTER KA WITH VERTICAL STROKEÉSMALL LETTER KA ",
  "WITH VERTICAL STROKEÉCAPITAL LETTER KA WITH STROKEÉSMALL LETTER KA WITH STROKEÉCAPITAL LETTER BA",
  "SHKIR KAÉSMALL LETTER BASHKIR KAÉCAPITAL LETTER EN WITH DESCENDERÉSMALL LETTER EN WITH DESCENDER",
  "ÉCAPITAL LIGATURE EN GHEÉSMALL LIGATURE EN GHEÉCAPITAL LETTER PE WITH MIDDLE HOOKÉSMALL LETTER P",
  "E WITH MIDDLE HOOKÉCAPITAL LETTER ABKHASIAN HAÉSMALL LETTER ABKHASIAN HAÉCAPITAL LETTER ES WITH ",
  "DESCENDERÉSMALL LETTER ES WITH DESCENDERÉCAPITAL LETTER TE WITH DESCENDERÉSMALL LETTER TE WITH D",
  "ESCENDERÉCAPITAL LETTER STRAIGHT UÉSMALL LETTER STRAIGHT UÉCAPITAL LETTER STRAIGHT U WITH STROKE",
  "ÉSMALL LETTER STRAIGHT U WITH STROKEÉCAPITAL LETTER HA WITH DESCENDERÉSMALL LETTER HA WITH DESCE",
  "NDERÉCAPITAL LIGATURE TE TSEÉSMALL LIGATURE TE TSEÉCAPITAL LETTER CHE WITH DESCENDERÉSMALL LETTE",
  "R CHE WITH DESCENDERÉCAPITAL LETTER CHE WITH VERTICAL STROKEÉSMALL LETTER CHE WITH VERTICAL STRO",
  "KEÉCAPITAL LETTER SHHAÉSMALL LETTER SHHAÉCAPITAL LETTER ABKHASIAN CHEÉSMALL LETTER ABKHASIAN CHE",
  "ÉCAPITAL LETTER ABKHASIAN CHE WITH DESCENDERÉSMALL LETTER ABKHASIAN CHE WITH DESCENDERÉLETTER PA",
  "LOCHKAÉCAPITAL LETTER ZHE WITH BREVEÉSMALL LETTER ZHE WITH BREVEÉCAPITAL LETTER KA WITH HOOKÉSMA",
  "LL LETTER KA WITH HOOKÉCAPITAL LETTER EL WITH TAILÉSMALL LETTER EL WITH TAILÉCAPITAL LETTER EN W",
  "ITH HOOKÉSMALL LETTER EN WITH HOOKÉCAPITAL LETTER EN WITH TAILÉSMALL LETTER EN WITH TAILÉCAPITAL ",
  "LETTER KHAKASSIAN CHEÉSMALL LETTER KHAKASSIAN CHEÉCAPITAL LETTER EM WITH TAILÉSMALL LETTER EM WI",
  "TH TAILÖPALOCHKAÉCAPITAL LETTER A WITH BREVEÉSMALL LETTER A WITH BREVEÉCAPITAL LETTER A WITH DIA",
  "ERESISÉSMALL LETTER A WITH DIAERESISÉCAPITAL LIGATURE A IEÉSMALL LIGATURE A IEÉCAPITAL LETTER IE ",
  "WITH BREVEÉSMALL LETTER IE WITH BREVEÉCAPITAL LETTER SCHWAÉSMALL LETTER SCHWAÉCAPITAL LETTER SCH",
  "WA WITH DIAERESISÉSMALL LETTER SCHWA WITH DIAERESISÉCAPITAL LETTER ZHE WITH DIAERESISÉSMALL LETT",
  "ER ZHE WITH DIAERESISÉCAPITAL LETTER ZE WITH DIAERESISÉSMALL LETTER ZE WITH DIAERESISÉCAPITAL LE",
  "TTER ABKHASIAN DZEÉSMALL LETTER ABKHASIAN DZEÉCAPITAL LETTER I WITH MACRONÉSMALL LETTER I WITH M",
  "ACRONÉCAPITAL LETTER I WITH DIAERESISÉSMALL LETTER I WITH DIAERESISÉCAPITAL LETTER O WITH DIAERE",
  "SISÉSMALL LETTER O WITH DIAERESISÉCAPITAL LETTER BARRED OÉSMALL LETTER BARRED OÉCAPITAL LETTER B",
  "ARRED O WITH DIAERESISÉSMALL LETTER BARRED O WITH DIAERESISÉCAPITAL LETTER E WITH DIAERESISÉSMAL",
  "L LETTER E WITH DIAERESISÉCAPITAL LETTER U WITH MACRONÉSMALL LETTER U WITH MACRONÉCAPITAL LETTER ",
  "U WITH DIAERESISÉSMALL LETTER U WITH DIAERESISÉCAPITAL LETTER U WITH DOUBLE ACUTEÉSMALL LETTER U ",
  "WITH DOUBLE ACUTEÉCAPITAL LETTER CHE WITH DIAERESISÉSMALL LETTER CHE WITH DIAERESISÉCAPITAL LETT",
  "ER GHE WITH DESCENDERÉSMALL LETTER GHE WITH DESCENDERÉCAPITAL LETTER YERU WITH DIAERESISÉSMALL L",
  "ETTER YERU WITH DIAERESISÉCAPITAL LETTER GHE WITH STROKE AND HOOKÉSMALL LETTER GHE WITH STROKE A",
  "ND HOOKÉCAPITAL LETTER HA WITH HOOKÉSMALL LETTER HA WITH HOOKÉCAPITAL LETTER HA WITH STROKEÉSMAL",
  "L LETTER HA WITH STROKEÉCAPITAL LETTER KOMI DEÉSMALL LETTER KOMI DEÉCAPITAL LETTER KOMI DJEÉSMAL",
  "L LETTER KOMI DJEÉCAPITAL LETTER KOMI ZJEÉSMALL LETTER KOMI ZJEÉCAPITAL LETTER KOMI DZJEÉSMALL L",
  "ETTER KOMI DZJEÉCAPITAL LETTER KOMI LJEÉSMALL LETTER KOMI LJEÉCAPITAL LETTER KOMI NJEÉSMALL LETT",
  "ER KOMI NJEÉCAPITAL LETTER KOMI SJEÉSMALL LETTER KOMI SJEÉCAPITAL LETTER KOMI TJEÉSMALL LETTER K",
  "OMI TJEÉCAPITAL LETTER REVERSED ZEÉSMALL LETTER REVERSED ZEÉCAPITAL LETTER EL WITH HOOKÉSMALL LE",
  "TTER EL WITH HOOKÉCAPITAL LETTER LHAÉSMALL LETTER LHAÉCAPITAL LETTER RHAÉSMALL LETTER RHAÉCAPITA",
  "L LETTER YAEÉSMALL LETTER YAEÉCAPITAL LETTER QAÉSMALL LETTER QAÉCAPITAL LETTER WEÉSMALL LETTER W",
  "EÉCAPITAL LETTER ALEUT KAÉSMALL LETTER ALEUT KAÉCAPITAL LETTER EL WITH MIDDLE HOOKÉSMALL LETTER ",
  "EL WITH MIDDLE HOOKÉCAPITAL LETTER EN WITH MIDDLE HOOKÉSMALL LETTER EN WITH MIDDLE HOOKÉCAPITAL ",
  "LETTER PE WITH DESCENDERÉSMALL LETTER PE WITH DESCENDERÉCAPITAL LETTER SHHA WITH DESCENDERÉSMALL ",
  "LETTER SHHA WITH DESCENDERÉCAPITAL LETTER EN WITH LEFT HOOKÉSMALL LETTER EN WITH LEFT HOOKÉCAPIT",
  "AL LETTER DZZHEÉSMALL LETTER DZZHEÉCAPITAL LETTER DCHEÉSMALL LETTER DCHEÉCAPITAL LETTER EL WITH ",
  "DESCENDERÉSMALL LETTER EL WITH DESCENDER#531ÀARMENIAN CAPITAL LETTER AYBØBENØGIMØDAØECHØZAØEHÙTØ",
  "TOØZHEØINIØLIWNØXEHØCAØKENØHOØJAØGHADØCHEHØMENØYIØNOWØSHAØVOØCHAØPEHØJHEHØRAØSEHØVEWØTIWNØREHØCO",
  "ØYIWNØPIWRØKEHØOHØFEH#559ÉMODIFIER LETTER LEFT HALF RINGÉAPOSTROPHEÉEMPHASIS MARKÊXCLAMATION MAR",
  "KÉCOMMAÉQUESTION MARKÉABBREVIATION MARKÉSMALL LETTER TURNED AYBÖAYBÖBENÖGIMÖDAÖECHÖZAÖEH×TÖTOÖZH",
  "EÖINIÖLIWNÖXEHÖCAÖKENÖHOÖJAÖGHADÖCHEHÖMENÖYIÖNOWÖSHAÖVOÖCHAÖPEHÖJHEHÖRAÖSEHÖVEWÖTIWNÖREHÖCOÖYIWN",
  "ÖPIWRÖKEHÖOHÖFEHÐIGATURE ECH YIWNÐETTER YI WITH STROKEÉFULL STOPÉHYPHEN#58DÀRIGHT-FACING ARMENIA",
  "N ETERNITY SIGNÀLEFT-FACING ARMENIAN ETERNITY SIGNÀARMENIAN DRAM SIGN#591ÀHEBREW ACCENT ETNAHTAÎ",
  "SEGOLÏHALSHELETÎZAQEF QATANÔGADOLÎTIPEHAÎREVIAÎZARQAÎPASHTAÎYETIVÎTEVIRÎGERESHÔ MUQDAMÑSHAYIMÎQA",
  "RNEY PARAÎTELISHA GEDOLAÎPAZERÎATNAH HAFUKHÎMUNAHÏAHAPAKHÏERKHAÔ KEFULAÎDARGAÎQADMAÎTELISHA QETA",
  "NAÎYERAH BEN YOMOÎOLEÎILUYÎDEHIÎZINORÇMARK MASORA CIRCLEÇPOINT SHEVAÍHATAF SEGOLÓPATAHÓQAMATSÎIR",
  "IQÍTSEREÍSEGOLÍPATAHÍQAMATSÍHOLAMÒ HASER FOR VAVÍQUBUTSÍDAGESH OR MAPIQÍMETEGÈUNCTUATION MAQAFÈO",
  "INT RAFEÈUNCTUATION PASEQÈOINT SHIN DOTÎIN DOTÈUNCTUATION SOF PASUQÇMARK UPPER DOTÌLOWER DOTÇPUN",
  "CTUATION NUN HAFUKHAÈOINT QAMATS QATAN#5D0ÇLETTER ALEFÎBETÎGIMELÎDALETÎHEÎVAVÎZAYINÎHETÎTETÎYODÎ",
  "FINAL KAFÎKAFÎLAMEDÎFINAL MEMÎMEMÎFINAL NUNÎNUNÎSAMEKHÎAYINÎFINAL PEÎPEÎFINAL TSADIÎTSADIÎQOFÎRE",
  "SHÎSHINÎTAV#5EFÇYOD TRIANGLEÇLIGATURE YIDDISH DOUBLE VAVØVAV YODØDOUBLE YODÇPUNCTUATION GERESHÖS",
  "HAYIM#600ÀARABIC NUMBER SIGNÇSIGN SANAHÇFOOTNOTE MARKERÇSIGN SAFHAÎMVATÇNUMBER MARK ABOVEÆ-INDIC ",
  "CUBE ROOTÍFOURTH ROOTÆ RAYÆ-INDIC PER MILLE SIGNÑTEN THOUSAND SIGNÁFGHANI SIGNÁRABIC COMMAÇDATE ",
  "SEPARATORÇPOETIC VERSE SIGNÇSIGN MISRAÌSALLALLAHOU ALAYHE WASSALLAMÌALAYHE ASSALLAMÌRAHMATULLAH ",
  "ALAYHEÎDI ALLAHOU ANHUÌTAKHALLUSÈMALL HIGH TAHÒLIGATURE ALEF WITH LAM WITH YEHÒZAINÍFATHAÍDAMMAÍ",
  "KASRAÈEMICOLONÇLETTER MARKÇEND OF TEXT MARKÇTRIPLE DOT PUNCTUATION MARKÇQUESTION MARKÇLETTER KAS",
  "HMIRI YEHÎHAMZAÎALEF WITH MADDA ABOVEØHAMZA ABOVEÎWAW WITH HAMZA ABOVEÎALEF WITH HAMZA BELOWÎYEH ",
  "WITH HAMZA ABOVEÎALEFÎBEHÎTEH MARBUTAÑÏHEHÎJEEMÎHAHÎKHAHÎDALÎTHALÎREHÎZAINÎSEENÏHEENÏADÎDADÎTAHÎ",
  "ZAHÎAINÎGHAINÎKEHEH WITH TWO DOTS ABOVEÚHREE DOTS BELOWÎFARSI YEH WITH INVERTED VÝTWO DOTS ABOVE",
  "ÞHREE DOTS ABOVEÇTATWEELÇLETTER FEHÎQAFÎKAFÎLAMÎMEEMÎNOONÎHEHÎWAWÎALEF MAKSURAÎYEHÇFATHATANÇDAMM",
  "ATANÇKASRATANÇFATHAÇDAMMAÇKASRAÇSHADDAÈUKUNÇMADDAH ABOVEÇHAMZA ABOVEÍBELOWÇSUBSCRIPT ALEFÇINVERT",
  "ED DAMMAÇMARK NOON GHUNNAÇZWARAKAYÇVOWEL SIGN SMALL V ABOVEÒINVERTED SMALL V ABOVEÒDOT BELOWÇREV",
  "ERSED DAMMAÇFATHA WITH TWO DOTSÇWAVY HAMZA BELOWÆ-INDIC DIGIT ZEROÓONEÓTWOÔHREEÓFOURÔIVEÓSIXÔEVE",
  "NÓEIGHTÓNINEÆ PERCENT SIGNÇDECIMAL SEPARATORÇTHOUSANDS SEPARATORÇFIVE POINTED STARÇLETTER DOTLES",
  "S BEHÖQAFÎSUPERSCRIPT ALEFÎALEF WASLAÔITH WAVY HAMZA ABOVEãBELOWÎHIGH HAMZAØ ALEFÙWAWÎU WITH HAM",
  "ZA ABOVEÎHIGH HAMZA YEHÎTTEHÒEHÎBEEHÎTEH WITH RING×THREE DOTS ABOVE DOWNWARDSÎPEHÎTEHEHÎBEHEHÎHA",
  "H WITH HAMZA ABOVE×TWO DOTS VERTICAL ABOVEÎNYEHÎDYEHÎHAH WITH THREE DOTS ABOVEÎTCHEHÓEHÎDDALÏAL ",
  "WITH RING×DOT BELOWà AND SMALL TAHÐHALÏDAHALÏULÏAL WITH THREE DOTS ABOVE DOWNWARDS×FOUR DOTS ABO",
  "VEÎRREHÏEH WITH SMALL V×RING×DOT BELOW×SMALL V BELOW×DOT BELOW AND DOT ABOVE×TWO DOTS ABOVEÎJEHÎ",
  "REH WITH FOUR DOTS ABOVEÎSEEN WITH DOT BELOW AND DOT ABOVEØTHREE DOTS BELOWè AND THREE DOTS ABOV",
  "EÏAD WITH TWO DOTS BELOWØHREE DOTS ABOVEÎTAH WITH THREE DOTS ABOVEÎAIN WITH THREE DOTS ABOVEÎDOT",
  "LESS FEHÎFEH WITH DOT MOVED BELOWÛBELOWÎVEHÎFEH WITH THREE DOTS BELOWÎPEHEHÎQAF WITH DOT ABOVE×T",
  "HREE DOTS ABOVEÎKEHEHÎSWASH KAFÎKAF WITH RING×DOT ABOVEÎNGÎKAF WITH THREE DOTS BELOWÎGAFÑ WITH R",
  "INGÎNGOEHÎGAF WITH TWO DOTS BELOWÏUEHÏAF WITH THREE DOTS ABOVEÎLAM WITH SMALL V×DOT ABOVE×THREE ",
  "DOTS ABOVEâBELOWÎNOON WITH DOT BELOWÓGHUNNAÎRNOONÎNOON WITH RINGØTHREE DOTS ABOVEÎHEH DOACHASHME",
  "EÎTCHEH WITH DOT ABOVEÎHEH WITH YEH ABOVEÒGOALÖ WITH HAMZA ABOVEÎTEH MARBUTA GOALÎWAW WITH RINGÎ",
  "KIRGHIZ OEÎOEÎUÎYUÎKIRGHIZ YUÎWAW WITH TWO DOTS ABOVEÎVEÎFARSI YEHÎYEH WITH TAIL×SMALL VÎWAW WIT",
  "H DOT ABOVEÎEÎYEH WITH THREE DOTS BELOWÒBARREEØ WITH HAMZA ABOVEÇFULL STOPÇLETTER AEÇSMALL HIGH ",
  "LIGATURE SAD WITH LAM WITH ALEF MAKSURAÛQAF WITH LAM WITH ALEF MAKSURAÒMEEM INITIAL FORMÒLAM ALE",
  "FÒJEEMÒTHREE DOTSÒSEENÇEND OF AYAHÇSTART OF RUB EL HIZBÈMALL HIGH ROUNDED ZEROÒUPRIGHT RECTANGUL",
  "AR ZEROÒDOTLESS HEAD OF KHAHÒMEEM ISOLATED FORMÍLOW SEENÍHIGH MADDAÍWAWÍYEHÍHIGH YEHÒNOONÇPLACE ",
  "OF SAJDAHÇEMPTY CENTRE LOW STOPÔHIGH STOPÇROUNDED HIGH STOP WITH FILLED CENTREÇSMALL LOW MEEMÇLE",
  "TTER DAL WITH INVERTED VÎREH WITH INVERTED VÀEXTENDED ARABIC-INDIC DIGIT ZEROÜONEÜTWOÝHREEÜFOURÝ",
  "IVEÜSIXÝEVENÜEIGHTÜNINEÀARABIC LETTER SHEEN WITH DOT BELOWÎDAD WITH DOT BELOWÎGHAIN WITH DOT BEL",
  "OWÇSIGN SINDHI AMPERSANDÓPOSTPOSITION MENÇLETTER HEH WITH INVERTED VÀSYRIAC END OF PARAGRAPHÇSUP",
  "RALINEAR FULL STOPÉBLINEAR FULL STOPÉPRALINEAR COLONÉBLINEAR COLONÇHORIZONTAL COLONÇCOLON SKEWED ",
  "LEFTÔRIGHTÇSUPRALINEAR COLON SKEWED LEFTÉBLINEAR COLON SKEWED RIGHTÇCONTRACTIONÇHARKLEAN OBELUSÐ",
  "METOBELUSÐASTERISCUS#70FÇABBREVIATION MARKÇLETTER ALAPHÎSUPERSCRIPT ALAPHÎBETHÎGAMALÓ GARSHUNIÎD",
  "ALATHÏOTLESS DALATH RISHÎHEÎWAWÎZAINÎHETHÎTETHÒ GARSHUNIÎYUDHÒ HEÎKAPHÎLAMADHÎMIMÎNUNÎSEMKATHÎFI",
  "NAL SEMKATHÎEÎPEÎREVERSED PEÎSADHEÎQAPHÎRISHÎSHINÎTAWÎPERSIAN BHETHÖGHAMALÖDHALATHÇPTHAHA ABOVEÎ",
  "BELOWÎDOTTEDÇZQAPHA ABOVEÎBELOWÎDOTTEDÇRBASA ABOVEÍBELOWÇDOTTED ZLAMA HORIZONTALÔANGULARÇHBASA A",
  "BOVEÍBELOWÌ-ESASA DOTTEDÇESASA ABOVEÍBELOWÇRWAHAÇFEMININE DOTÇQUSHSHAYAÇRUKKAKHAÇTWO VERTICAL DO",
  "TS ABOVEÙBELOWÈHREE DOTS ABOVEÒBELOWÇOBLIQUE LINE ABOVEÔBELOWÇMUSICÇBARREKH#74DÇLETTER SOGDIAN Z",
  "HAINÖKHAPHÖFEÀARABIC LETTER BEH WITH THREE DOTS HORIZONTALLY BELOW×DOT BELOW AND THREE DOTS ABOV",
  "E×THREE DOTS POINTING UPWARDS BELOWø AND TWO DOTS ABOVEØWO DOTS BELOW AND DOT ABOVE×INVERTED SMA",
  "LL V BELOW×SMALL VÎHAH WITH TWO DOTS ABOVEØHREE DOTS POINTING UPWARDS BELOWÎDAL WITH TWO DOTS VE",
  "RTICALLY BELOW AND SMALL TAH×INVERTED SMALL V BELOWÎREH WITH STROKEÎSEEN WITH FOUR DOTS ABOVEÎAI",
  "N WITH TWO DOTS ABOVEØHREE DOTS POINTING DOWNWARDS ABOVEØWO DOTS VERTICALLY ABOVEÎFEH WITH TWO D",
  "OTS BELOWØHREE DOTS POINTING UPWARDS BELOWÎKEHEH WITH DOT ABOVEÙTHREE DOTS ABOVEäPOINTING UPWARD",
  "S BELOWÎMEEM WITH DOT ABOVEÜBELOWÎNOON WITH TWO DOTS BELOWØSMALL TAHÞVÎLAM WITH BARÎREH WITH TWO ",
  "DOTS VERTICALLY ABOVE×HAMZA ABOVEÎSEEN WITH TWO DOTS VERTICALLY ABOVEÎHAH WITH SMALL ARABIC LETT",
  "ER TAH BELOWïAND TWO DOTSÎSEEN WITH SMALL ARABIC LETTER TAH AND TWO DOTSÎREH WITH SMALL ARABIC L",
  "ETTER TAH AND TWO DOTSÎHAH WITH SMALL ARABIC LETTER TAH ABOVEÎALEF WITH EXTENDED ARABIC-INDIC DI",
  "GIT TWO ABOVEõHREE ABOVEÎFARSI YEH WITH EXTENDED ARABIC-INDIC DIGIT TWO ABOVEúHREE ABOVEùFOUR BE",
  "LOWÎWAW WITH EXTENDED ARABIC-INDIC DIGIT TWO ABOVEôHREE ABOVEÎYEH BARREE WITH EXTENDED ARABIC-IN",
  "DIC DIGIT TWO ABOVEûHREE ABOVEÎHAH WITH EXTENDED ARABIC-INDIC DIGIT FOUR BELOWÎSEEN WITH EXTENDE",
  "D ARABIC-INDIC DIGIT FOUR ABOVEØINVERTED VÎKAF WITH TWO DOTS ABOVEÀTHAANA LETTER HAAÎSHAVIYANIÎN",
  "OONUÎRAAÎBAAÎLHAVIYANIÎKAAFUÎALIFUÎVAAVUÎMEEMUÎFAAFUÎDHAALUÎTHAAÎLAAMUÎGAAFUÏNAVIYANIÎSEENUÎDAVI",
  "YANIÎZAVIYANIÎTAVIYANIÎYAAÎPAVIYANIÎJAVIYANIÎCHAVIYANIÎTTAAÎHHAAÎKHAAÎTHAALUÎZAAÎSHEENUÏAADHUÎDA",
  "ADHUÎTOÎZOÎAINUÎGHAINUÎQAAFUÎWAAVUÇABAFILIÈABAAFILIÇIBIFILIÇEEBEEFILIÇUBUFILIÇOOBOOFILIÇEBEFILIÈ",
  "YBEYFILIÇOBOFILIÈABOAFILIÇSUKUNÇLETTER NAA#7C0ÀNKO DIGIT ZEROÊONEÊTWOËHREEÊFOURËIVEÊSIXËEVENÊEIG",
  "HTÊNINEÄLETTER AËEEËIËEËUËOOÌËDAGBASINNAËNËBAËPAËTAËJAËCHAËDAËRAÌRAËSAËGBAËFAËKAËLAËNA WOLOSOËMA",
  "ËNYAÌAËHAËWAËYAËNYA WOLOSOËJONA JAÐCHAÐRAÄCOMBINING SHORT HIGH TONEÔLOW TONEÔRISING TONEÎLONG DE",
  "SCENDING TONEÓHIGH TONEÓLOW TONEÓRISING TONEÎNASALIZATION MARKÎDOUBLE DOT ABOVEÄHIGH TONE APOSTR",
  "OPHEÄLOW TONE APOSTROPHEÄSYMBOL OO DENNENËGBAKURUNENÄCOMMAÄEXCLAMATION MARKÄLAJANYALAN#7FDÄDANTA",
  "YALANÅOROME SIGNÄTAMAN SIGNÀSAMARITAN LETTER ALAFÑBITÑGAMANÑDALATÑIYÑBAAÑZENÑITÑTITÑYUTÑKAAFÑLAB",
  "ATÑMIMÑNUNÑSINGAATÑINÑFIÑTSAADIYÑQUFÑRISHÑSHANÑTAAFÊMARK INÑ-ALAFÏOCCLUSIONÏDAGESHËODIFIER LETTE",
  "R EPENTHETIC YUTËARK EPENTHETIC YUTÊVOWEL SIGN LONG EÕEÕOVERLONG AAÕLONG AAÕAAÕOVERLONG AÕLONG A",
  "ÕAÊMODIFIER LETTER SHORT AÊVOWEL SIGN SHORT AÕLONG UÕUÊMODIFIER LETTER IÊVOWEL SIGN LONG IÕIÕOÕS",
  "UKUNÊMARK NEQUDAA#830ÊPUNCTUATION NEQUDAAÖAFSAAQ×NGEDÖBAUÖATMAAUÖSHIYYAALAAÊABBREVIATION MARKÊPU",
  "NCTUATION MELODIC QITSAÖZIQAAÖQITSAÖZAEFÖTURUÖARKAANUÖSOF MASHFAATÖANNAAU#840ÀMANDAIC LETTER HAL",
  "QAÏABÐGÐDÐHÏUSHENNAÏAZÏITÏATTÐKSAÑÐLÐMÐNÐSÏINÏAPÐSZÐQÐRÐSHÐTÏDUSHENNAÏKADÏAINÈAFFRICATION MARKÈV",
  "OCALIZATION MARKÈGEMINATION MARK#85EÈPUNCTUATION#860ÀSYRIAC LETTER MALAYALAM NGAØJAØNYAØTTAØNNAÚ",
  "NAØBHAØRAØLLAÚLAØSSA#870ÀARABIC LETTER ALEF WITH ATTACHED FATHAáTOP RIGHT FATHAØRIGHT MIDDLE STR",
  "OKEØLEFT MIDDLE STROKEØATTACHED KASRAáBOTTOM RIGHT KASRAáROUND DOT ABOVEâIGHT ROUND DOTáLEFT ROU",
  "ND DOTáROUND DOT BELOWØDOT ABOVEØATTACHED TOP RIGHT FATHA AND DOT ABOVEØRIGHT MIDDLE STROKE AND ",
  "DOT ABOVEØATTACHED BOTTOM RIGHT KASRA AND DOT ABOVEáTOP RIGHT FATHA AND LEFT RINGØRIGHT MIDDLE S",
  "TROKE AND LEFT RINGØATTACHED BOTTOM RIGHT KASRA AND LEFT RINGáRIGHT HAMZAáLEFT HAMZAÇTATWEEL WIT",
  "H OVERSTRUCK HAMZAßWAWÔTWO DOTS BELOWÇLETTER THIN YEHÇBASELINE ROUND DOTÇRAISED ROUND DOTÇLETTER ",
  "NOON WITH INVERTED SMALL VÎHAH WITH INVERTED SMALL V BELOWÎTAH WITH DOT BELOW×THREE DOTS BELOWÎK",
  "EHEH WITH TWO DOTS VERTICALLY BELOWÇVERTICAL TAIL#890ÇPOUND MARK ABOVEÈIASTRE MARK ABOVE#898ÇSMA",
  "LL HIGH WORD AL-JUZÍLOW WORD ISHMAAM×MAALAÖTASHEELÇMADDA WAAJIBÇSUPERSCRIPT ALEF MOKHASSASÇDOUBL",
  "ED MADDAÇHALF MADDA OVER MADDAÇLETTER BEH WITH SMALL V BELOW×HAMZA ABOVEÎJEEM WITH TWO DOTS ABOV",
  "EÎTAH WITH TWO DOTS ABOVEÎFEH WITH DOT BELOW AND THREE DOTS ABOVEÎQAF WITH DOT BELOWÎLAM WITH DO",
  "UBLE BARÎMEEM WITH THREE DOTS ABOVEÎYEH WITH TWO DOTS BELOW AND HAMZA ABOVEêDOT ABOVEÎREH WITH L",
  "OOPÎWAW WITH DOT WITHINÎROHINGYA YEHÎLOW ALEFÎDAL WITH THREE DOTS BELOWÎSAD WITH THREE DOTS BELO",
  "WÎGAF WITH INVERTED STROKEÎSTRAIGHT WAWÎZAIN WITH INVERTED V ABOVEÎAIN WITH THREE DOTS BELOWÎKAF ",
  "WITH DOT BELOWÎQAF WITH DOT BELOW AND NO DOTS ABOVEÎBEH WITH SMALL MEEM ABOVEÎPEH WITH SMALL MEE",
  "M ABOVEÎTEH WITH SMALL TEH ABOVEÎREH WITH SMALL NOON ABOVEÎYEH WITH TWO DOTS BELOW AND SMALL NOO",
  "N ABOVEÎAFRICAN FEHÖQAFÖNOONÎPEH WITH SMALL VÎTEH WITH SMALL VÏTEH WITH SMALL VÏCHEH WITH SMALL ",
  "VÎKEHEH WITH SMALL VÎGHAIN WITH THREE DOTS ABOVEÎAFRICAN QAF WITH THREE DOTS ABOVEÎJEEM WITH THR",
  "EE DOTS ABOVEãBELOWÎLAM WITH SMALL ARABIC LETTER TAH ABOVEÎGRAFÇSMALL FARSI YEHÍHIGH FARSI YEHÒY",
  "EH BARREE WITH TWO DOTS BELOWÒWORD SAHÒZAHÇLARGE ROUND DOT ABOVE×BELOWÇSUKUN BELOWÇLARGE CIRCLE ",
  "BELOWÍROUND DOT INSIDE CIRCLE BELOWÇSMALL LOW WAWÍHIGH WORD AR-RUBÒSADÒAINÒQAFÒNOON WITH KASRAÍL",
  "OW NOON WITH KASRAÍHIGH WORD ATH-THALATHAØS-SAJDAØN-NISF×SAKTA×QIF×WAQFAÒFOOTNOTE MARKERÒSIGN SA",
  "FHAÇDISPUTED END OF AYAHÇTURNED DAMMA BELOWÇCURLY FATHAÍDAMMAÍKASRAÍFATHATANÍDAMMATANÍKASRATANÇT",
  "ONE ONE DOT ABOVEÌTWO DOTS ABOVEÌLOOP ABOVEÌONE DOT BELOWÌTWO DOTS BELOWÌLOOP BELOWÇOPEN FATHATA",
  "NÌDAMMATANÌKASRATANÇSMALL HIGH WAWÇFATHA WITH RINGÒDOT ABOVEÇKASRA WITH DOT BELOWÇLEFT ARROWHEAD ",
  "ABOVEÇRIGHT ARROWHEAD ABOVEÇLEFT ARROWHEAD BELOWÇRIGHT ARROWHEAD BELOWÇDOUBLE RIGHT ARROWHEAD AB",
  "OVEã WITH DOTÇRIGHT ARROWHEAD ABOVE WITH DOTÇDAMMA WITH DOTÇMARK SIDEWAYS NOON GHUNNAÀDEVANAGARI ",
  "SIGN INVERTED CANDRABINDUÐCANDRABINDUÐANUSVARAÐVISARGAËLETTER SHORT AÒAÓAÒIÓIÒUÓUÒVOCALIC RÚLÒCA",
  "NDRA EÒSHORT EÒEÒAIÒCANDRA OÒSHORT OÒOÒAUÒKAÓHAÒGAÓHAÒNGAÒCAÓHAÒJAÓHAÒNYAÒTTAÔHAÒDDAÔHAÒNNAÒTAÓH",
  "AÒDAÓHAÒNAÓNNAÒPAÓHAÒBAÓHAÒMAÒYAÒRAÓRAÒLAÓLAÔLAÒVAÒSHAÓSAÓAÒHAËVOWEL SIGN OE×OEËSIGN NUKTAÐAVAGR",
  "AHAËVOWEL SIGN AAÖI×IÖU×UÖVOCALIC RßRÖCANDRA EÖSHORT EÖEÖAIÖCANDRA OÖSHORT OÖOÖAUËSIGN VIRAMAËVO",
  "WEL SIGN PRISHTHAMATRA EÖAWËOMËSTRESS SIGN UDATTA×ANUDATTAËGRAVE ACCENTËACUTE ACCENTËVOWEL SIGN ",
  "CANDRA LONG EÖUE×UEËLETTER QAÒKHHAÒGHHAÒZAÒDDDHAÒRHAÒFAÒYYAÒVOCALIC RRÚLLËVOWEL SIGN VOCALIC LßL",
  "ËDANDAÌOUBLE DANDAÌIGIT ZEROÑONEÑTWOÒHREEÑFOURÒIVEÑSIXÒEVENÑEIGHTÑNINEËABBREVIATION SIGNËSIGN HI",
  "GH SPACING DOTËLETTER CANDRA AÒOEÓOEÒAWÒUEÓUEÒMARWARI DDAÒZHAÒHEAVY YAÒGGAÒJJAÒGLOTTAL STOPÒDDDA",
  "ÒBBAÀBENGALI ANJIÈSIGN CANDRABINDUÍANUSVARAÍVISARGA#985ÈLETTER AÐAÏIÐIÏUÐUÏVOCALIC R×L#98FÏEÏAI#",
  "993ÏOÏAUÏKAÐHAÏGAÐHAÏNGAÏCAÐHAÏJAÐHAÏNYAÏTTAÑHAÏDDAÑHAÏNNAÏTAÐHAÏDAÐHAÏNA#9AAÏPAÐHAÏBAÐHAÏMAÏYAÏ",
  "RA#9B2ÏLA#9B6ÏSHAÐSAÐAÏHA#9BCÈSIGN NUKTAÍAVAGRAHAÈVOWEL SIGN AAÓIÔIÓUÔUÓVOCALIC RÜR#9C7ÓEÓAI#9CB",
  "ÓOÓAUÈSIGN VIRAMAÈLETTER KHANDA TA#9D7ÈAU LENGTH MARK#9DCÈLETTER RRAÐHA#9DFÏYYAÏVOCALIC RR×LLÈVO",
  "WEL SIGN VOCALIC LÜL#9E6ÈDIGIT ZEROÎONEÎTWOÏHREEÎFOURÏIVEÎSIXÏEVENÎEIGHTÎNINEÈLETTER RA WITH MID",
  "DLE DIAGONAL×LOWER DIAGONALÈRUPEE MARKÎSIGNÈCURRENCY NUMERATOR ONEÛTWOÜHREEÛFOURÛONE LESS THAN T",
  "HE DENOMINATORÑDENOMINATOR SIXTEENÈISSHARÈGANDA MARKÈLETTER VEDIC ANUSVARAÈABBREVIATION SIGNÈSAN",
  "DHI MARK#A01ÀGURMUKHI SIGN ADAK BINDIÎBINDIÎVISARGA#A05ÉLETTER AÑAÐIÑIÐUÑU#A0FÐEEÐAI#A13ÐOOÐAUÐK",
  "AÑHAÐGAÑHAÐNGAÐCAÑHAÐJAÑHAÐNYAÐTTAÒHAÐDDAÒHAÐNNAÐTAÑHAÐDAÑHAÐNA#A2AÐPAÑHAÐBAÑHAÐMAÐYAÐRA#A32ÐLAÑ",
  "LA#A35ÐVAÐSHA#A38ÑAÐHA#A3CÉSIGN NUKTA#A3EÉVOWEL SIGN AAÔIÕIÔUÕU#A47ÔEEÔAI#A4BÔOOÔAUÉSIGN VIRAMA#",
  "A51ÎUDAAT#A59ÉLETTER KHHAÐGHHAÐZAÐRRA#A5EÐFA#A66ÉDIGIT ZEROÏONEÏTWOÐHREEÏFOURÐIVEÏSIXÐEVENÏEIGHT",
  "ÏNINEÉTIPPIÉADDAKÉIRIÉURAÉEK ONKARÉSIGN YAKASHÉABBREVIATION SIGN#A81ÂJARATI SIGN CANDRABINDUÎANU",
  "SVARAÎVISARGA#A85ÉLETTER AÑAÐIÑIÐUÑUÐVOCALIC RØLÉVOWEL CANDRA E#A8FÉLETTER EÐAIÉVOWEL CANDRA O#A",
  "93ÉLETTER OÐAUÐKAÑHAÐGAÑHAÐNGAÐCAÑHAÐJAÑHAÐNYAÐTTAÒHAÐDDAÒHAÐNNAÐTAÑHAÐDAÑHAÐNA#AAAÐPAÑHAÐBAÑHAÐ",
  "MAÐYAÐRA#AB2ÐLAÑLA#AB5ÐVAÐSHAÑSAÑAÐHA#ABCÉSIGN NUKTAÎAVAGRAHAÉVOWEL SIGN AAÔIÕIÔUÕUÔVOCALIC RÝRÔ",
  "CANDRA E#AC7ÔEÔAIÔCANDRA O#ACBÔOÔAUÉSIGN VIRAMA#AD0ÉOM#AE0ÉLETTER VOCALIC RRØLLÉVOWEL SIGN VOCAL",
  "IC LÝL#AE6ÉDIGIT ZEROÏONEÏTWOÐHREEÏFOURÐIVEÏSIXÐEVENÏEIGHTÏNINEÉABBREVIATION SIGNÉRUPEE SIGN#AF9",
  "ÉLETTER ZHAÉSIGN SUKUNÏHADDAÎMADDAHÎTHREE-DOT NUKTA ABOVEÎCIRCLE NUKTA ABOVEÎTWO-CIRCLE NUKTA AB",
  "OVE#B01ÀORIYA SIGN CANDRABINDUËANUSVARAËVISARGA#B05ÆLETTER AÎAÍIÎIÍUÎUÍVOCALIC RÕL#B0FÍEÍAI#B13Í",
  "OÍAUÍKAÎHAÍGAÎHAÍNGAÍCAÎHAÍJAÎHAÍNYAÍTTAÏHAÍDDAÏHAÍNNAÍTAÎHAÍDAÎHAÍNA#B2AÍPAÎHAÍBAÎHAÍMAÍYAÍRA#B",
  "32ÍLAÎLA#B35ÍVAÍSHAÎSAÎAÍHA#B3CÆSIGN NUKTAËAVAGRAHAÆVOWEL SIGN AAÑIÒIÑUÒUÑVOCALIC RÚR#B47ÑEÑAI#B",
  "4BÑOÑAUÆSIGN VIRAMA#B55ËOVERLINEÆAI LENGTH MARKÇU LENGTH MARK#B5CÆLETTER RRAÎHA#B5FÍYYAÍVOCALIC ",
  "RRÕLLÆVOWEL SIGN VOCALIC LÚL#B66ÆDIGIT ZEROÌONEÌTWOÍHREEÌFOURÍIVEÌSIXÍEVENÌEIGHTÌNINEÆISSHARÆLET",
  "TER WAÆFRACTION ONE QUARTERÓHALFÏTHREE QUARTERSÏONE SIXTEENTHÓEIGHTHÏTHREE SIXTEENTHS#B82ÀTAMIL ",
  "SIGN ANUSVARAËVISARGA#B85ÆLETTER AÎAÍIÎIÍUÎU#B8EÍEÎEÍAI#B92ÍOÎOÍAUÍKA#B99ÍNGAÍCA#B9CÍJA#B9EÍNYAÍ",
  "TTA#BA3ÍNNAÍTA#BA8ÍNAÎNNAÍPA#BAEÍMAÍYAÍRAÎRAÍLAÎLAÏLAÍVAÍSHAÎSAÎAÍHA#BBEÆVOWEL SIGN AAÑIÒIÑUÒU#B",
  "C6ÑEÒEÑAI#BCAÑOÒOÑAUÆSIGN VIRAMA#BD0ÆOM#BD7ÆAU LENGTH MARK#BE6ÆDIGIT ZEROÌONEÌTWOÍHREEÌFOURÍIVEÌ",
  "SIXÍEVENÌEIGHTÌNINEÆNUMBER TENÍONE HUNDREDÑTHOUSANDÆDAY SIGNÆMONTH SIGNÆYEAR SIGNÆDEBIT SIGNÆCRE",
  "DIT SIGNÆAS ABOVE SIGNÆRUPEE SIGNÆNUMBER SIGN#C00ÁELUGU SIGN COMBINING CANDRABINDU ABOVEÍANDRABI",
  "NDUÌANUSVARAÌVISARGAÌCOMBINING ANUSVARA ABOVEÇLETTER AÏAÎIÏIÎUÏUÎVOCALIC RÖL#C0EÎEÏEÎAI#C12ÎOÏOÎ",
  "AUÎKAÏHAÎGAÏHAÎNGAÎCAÏHAÎJAÏHAÎNYAÎTTAÐHAÎDDAÐHAÎNNAÎTAÏHAÎDAÏHAÎNA#C2AÎPAÏHAÎBAÏHAÎMAÎYAÎRAÏRAÎ",
  "LAÏLAÐLAÎVAÎSHAÏSAÏAÎHA#C3CÇSIGN NUKTAÌAVAGRAHAÇVOWEL SIGN AAÒIÓIÒUÓUÒVOCALIC RÛR#C46ÒEÓEÒAI#C4A",
  "ÒOÓOÒAUÇSIGN VIRAMA#C55ÇLENGTH MARKÇAI LENGTH MARK#C58ÇLETTER TSAÎDZAÎRRRA#C5DÎNAKAARA POLLU#C60",
  "ÎVOCALIC RRÖLLÇVOWEL SIGN VOCALIC LÛL#C66ÇDIGIT ZEROÍONEÍTWOÎHREEÍFOURÎIVEÍSIXÎEVENÍEIGHTÍNINE#C",
  "77ÇSIGN SIDDHAMÇFRACTION DIGIT ZERO FOR ODD POWERS OF FOURÖONE FOR ODD POWERS OF FOURÖTWO FOR OD",
  "D POWERS OF FOUR×HREE FOR ODD POWERS OF FOURÖONE FOR EVEN POWERS OF FOURÖTWO FOR EVEN POWERS OF ",
  "FOUR×HREE FOR EVEN POWERS OF FOURÇSIGN TUUMUÀKANNADA SIGN SPACING CANDRABINDUÍCANDRABINDUÍANUSVA",
  "RAÍVISARGAÍSIDDHAMÈLETTER AÐAÏIÐIÏUÐUÏVOCALIC R×L#C8EÏEÐEÏAI#C92ÏOÐOÏAUÏKAÐHAÏGAÐHAÏNGAÏCAÐHAÏJA",
  "ÐHAÏNYAÏTTAÑHAÏDDAÑHAÏNNAÏTAÐHAÏDAÐHAÏNA#CAAÏPAÐHAÏBAÐHAÏMAÏYAÏRAÐRAÏLAÐLA#CB5ÏVAÏSHAÐSAÐAÏHA#CB",
  "CÈSIGN NUKTAÍAVAGRAHAÈVOWEL SIGN AAÓIÔIÓUÔUÓVOCALIC RÜR#CC6ÓEÔEÓAI#CCAÓOÔOÓAUÈSIGN VIRAMA#CD5ÈLE",
  "NGTH MARKÈAI LENGTH MARK#CDDÈLETTER NAKAARA POLLUÏFA#CE0ÏVOCALIC RR×LLÈVOWEL SIGN VOCALIC LÜL#CE",
  "6ÈDIGIT ZEROÎONEÎTWOÏHREEÎFOURÏIVEÎSIXÏEVENÎEIGHTÎNINE#CF1ÈSIGN JIHVAMULIYAÍUPADHMANIYA#D00ÀMALA",
  "YALAM SIGN COMBINING ANUSVARA ABOVEÐANDRABINDUÏANUSVARAÏVISARGAÊLETTER VEDIC ANUSVARAÑAÒAÑIÒIÑUÒ",
  "UÑVOCALIC RÙL#D0EÑEÒEÑAI#D12ÑOÒOÑAUÑKAÒHAÑGAÒHAÑNGAÑCAÒHAÑJAÒHAÑNYAÑTTAÓHAÑDDAÓHAÑNNAÑTAÒHAÑDAÒH",
  "AÑNAÒNNAÑPAÒHAÑBAÒHAÑMAÑYAÑRAÒRAÑLAÒLAÓLAÑVAÑSHAÒSAÒAÑHAÑTTTAÊSIGN VERTICAL BAR VIRAMAÏCIRCULAR ",
  "VIRAMAÏAVAGRAHAÊVOWEL SIGN AAÕIÖIÕUÖUÕVOCALIC RÞR#D46ÕEÖEÕAI#D4AÕOÖOÕAUÊSIGN VIRAMAÊLETTER DOT R",
  "EPHÊSIGN PARA#D54ÊLETTER CHILLU MØYØLLLÊAU LENGTH MARKÊFRACTION ONE ONE-HUNDRED-AND-SIXTIETH×FOR",
  "TIETHÓTHREE EIGHTIETHSÓONE TWENTIETHØENTHÓTHREE TWENTIETHSÓONE FIFTHÊLETTER ARCHAIC IIÑVOCALIC R",
  "RÙLLÊVOWEL SIGN VOCALIC LÞL#D66ÊDIGIT ZEROÐONEÐTWOÑHREEÐFOURÑIVEÐSIXÑEVENÐEIGHTÐNINEÊNUMBER TENÑ",
  "ONE HUNDREDÕTHOUSANDÊFRACTION ONE QUARTER×HALFÓTHREE QUARTERSÓONE SIXTEENTH×EIGHTHÓTHREE SIXTEEN",
  "THSÊDATE MARKÊLETTER CHILLU NNÙØRRØLÙLØK#D81ÀSINHALA SIGN CANDRABINDUÍANUSVARAYAÍVISARGAYA#D85ÈL",
  "ETTER AYANNAÐAYANNAÐEYANNAÑEYANNAÏIYANNAÐIYANNAÏUYANNAÐUYANNAÏIRUYANNAÒUYANNAÐLUYANNAÒUYANNAÏEYA",
  "NNAÐEYANNAÏAIYANNAÏOYANNAÐOYANNAÏAUYANNA#D9AÐLPAPRAANA KAYANNAÏMAHAAPRAANA KAYANNAÏALPAPRAANA GA",
  "YANNAÏMAHAAPRAANA GAYANNAÏKANTAJA NAASIKYAYAÏSANYAKA GAYANNAÏALPAPRAANA CAYANNAÏMAHAAPRAANA CAYA",
  "NNAÏALPAPRAANA JAYANNAÏMAHAAPRAANA JAYANNAÏTAALUJA NAASIKYAYA×SANYOOGA NAAKSIKYAYAÏSANYAKA JAYAN",
  "NAÏALPAPRAANA TTAYANNAÏMAHAAPRAANA TTAYANNAÏALPAPRAANA DDAYANNAÏMAHAAPRAANA DDAYANNAÐUURDHAJA NA",
  "YANNAÏSANYAKA DDAYANNAÏALPAPRAANA TAYANNAÏMAHAAPRAANA TAYANNAÏALPAPRAANA DAYANNAÏMAHAAPRAANA DAY",
  "ANNAÏDANTAJA NAYANNA#DB3ÏSANYAKA DAYANNAÏALPAPRAANA PAYANNAÏMAHAAPRAANA PAYANNAÏALPAPRAANA BAYAN",
  "NAÏMAHAAPRAANA BAYANNAÑYANNAÏAMBA BAYANNAÏYAYANNAÏRAYANNA#DBDÏDANTAJA LAYANNA#DC0ÏVAYANNAÏTAALUJ",
  "A SAYANNAÏMUURDHAJA SAYANNAÏDANTAJA SAYANNAÏHAYANNAÏMUURDHAJA LAYANNAÏFAYANNA#DCAÈSIGN AL-LAKUNA",
  "#DCFÈVOWEL SIGN AELA-PILLAÓKETTI AEDA-PILLAÓDIGA AEDA-PILLAÓKETTI IS-PILLAÓDIGA IS-PILLAÓKETTI P",
  "AA-PILLA#DD6ÓDIGA PAA-PILLA#DD8ÓGAETTA-PILLAÓKOMBUVAÓDIGA KOMBUVAÓKOMBU DEKAØVA HAA AELA-PILLAßD",
  "IGA AELA-PILLAßGAYANUKITTAÓGAYANUKITTA#DE6ÈLITH DIGIT ZEROÓONEÓTWOÔHREEÓFOURÔIVEÓSIXÔEVENÓEIGHTÓ",
  "NINE#DF2ÈVOWEL SIGN DIGA GAETTA-PILLAÚYANUKITTAÈPUNCTUATION KUNDDALIYA#E01ÀTHAI CHARACTER KO KAI",
  "ÐHO KHAIÕUATÕWAIÕONÓRAKHANGÏNGO NGUÏCHO CHANÕINGÕANGÏSO SOÏCHO CHOEÏYO YINGÏDO CHADAÏTO PATAKÐHO ",
  "THANÓNANGMONTHOÓPHUTHAOÏNO NENÏDO DEKÏTO TAOÐHO THUNGÕAHANÕONGÏNO NUÏBO BAIMAIÏPO PLAÐHO PHUNGÏF",
  "O FAÏPHO PHANÏFO FANÏPHO SAMPHAOÏMO MAÏYO YAKÏRO RUAÐUÏLO LINGÐUÏWO WAENÏSO SALAÒRUSIÒSUAÏHO HIP",
  "ÏLO CHULAÏO ANGÏHO NOKHUKÏPAIYANNOIÏSARA AÏMAI HAN-AKATÏSARA AAÕMÔIÕIÔUEÖEÕÕUÏPHINTHU#E3FÆURRENC",
  "Y SYMBOL BAHTÆHARACTER SARA EÔAEÔOÔAI MAIMUANÛALAIÏLAKKHANGYAOÏMAIYAMOKÒTAIKHUÒ EKÓTHOÔRIÓCHATTA",
  "WAÏTHANTHAKHATÏNIKHAHITÏYAMAKKANÏFONGMANÅDIGIT ZEROËONEËTWOÌHREEËFOURÌIVEËSIXÌEVENËEIGHTËNINEÅCH",
  "ARACTER ANGKHANKHUÏKHOMUT#E81ÀLAO LETTER KOÌHO SUNG#E84ÏTAM#E86ËPALI GHAËNGOËCOËPALI CHAËSO TAM#",
  "E8CËPALI JHAËNYOËPALI NYAÐTTAÒHAÐDDAÒHAÐNNAËDOËTOÌHO SUNGÏTAMËPALI DHAËNOËBOËPOÌHO SUNGËFO TAMËP",
  "HO TAMËFO SUNGËPALI BHAËMOËYOËLO LING#EA5ÏOOT#EA7ËWOËSANSKRIT SHAÕSAÌO SUNGËHO SUNGËPALI LLAËOËH",
  "O TAMÄELLIPSISÄVOWEL SIGN AÏMAI KANÏAAÐMÏIÐIÏYÐYÏUÐUÄSIGN PALI VIRAMAÄVOWEL SIGN MAI KONÄSEMIVOW",
  "EL SIGN LOÓNYO#EC0ÄVOWEL SIGN EÐIÏOÏAYÐI#EC6ÄKO LA#EC8ÄTONE MAI EKÍTHOÎIÍCATAWAÄCANCELLATION MAR",
  "KÄNIGGAHITA#ED0ÄDIGIT ZEROÊONEÊTWOËHREEÊFOURËIVEÊSIXËEVENÊEIGHTÊNINE#EDCÄHO NOÇMOÄLETTER KHMU GO",
  "ÐNYO#F00ÀTIBETAN SYLLABLE OMÈMARK GTER YIG MGO TRUNCATED AÚ-UM RNAM BCAD MAÞGTER TSHEG MAÍINITIA",
  "L YIG MGO MDUN MAÍCLOSING YIG MGO SGAB MAÎARET YIG MGO PHUR SHAD MAÍYIG MGO TSHEG SHAD MAÍSBRUL ",
  "SHADÍBSKUR YIG MGOÎKA- SHOG YIG MGOÍINTERSYLLABIC TSHEGÍDELIMITER TSHEG BSTARÍSHADÍNYIS SHADÍTSH",
  "EG SHADÍNYIS TSHEG SHADÍRIN CHEN SPUNGS SHADÎGYA GRAM SHADÍCARET -DZUD RTAGS ME LONG CANÍGTER TS",
  "HEGÈLOGOTYPE SIGN CHAD RTAGSÖLHAG RTAGSÈASTROLOGICAL SIGN SGRA GCAN -CHAR RTAGSÚ-KHYUD PAÚSDONG ",
  "TSHUGSÈSIGN RDEL DKAR GCIGØNYISØSUMÒNAG GCIG×NYISÒDKAR RDEL NAGÈDIGIT ZEROÎONEÎTWOÏHREEÎFOURÏIVE",
  "ÎSIXÏEVENÎEIGHTÎNINEÎHALF ONEÓTWOÔHREEÓFOURÔIVEÓSIXÔEVENÓEIGHTÓNINEÓZEROÈMARK BSDUS RTAGSÍNGAS B",
  "ZUNG NYI ZLAÍCARET -DZUD RTAGS BZHI MIG CANÍNGAS BZUNG SGOR RTAGSÍCHE MGOÍTSA -PHRUÍGUG RTAGS GY",
  "ONÙASÍANG KHANG GYONÙASÈSIGN YAR TSHESÍMAR TSHESÈLETTER KAÐHAÏGAÐHAÏNGAÏCAÐHAÏJA#F49ÏNYAÏTTAÑHAÏ",
  "DDAÑHAÏNNAÏTAÐHAÏDAÐHAÏNAÏPAÐHAÏBAÐHAÏMAÏTSAÑHAÏDZAÑHAÏWAÏZHAÐAÏ-AÏYAÏRAÏLAÏSHAÐSAÐAÏHAÏAÏKSSAÏF",
  "IXED-FORM RAÏKKAÏRRA#F71ÈVOWEL SIGN AAÓIÔIÓUÔUÓVOCALIC RÜRÛLÜLÓEÔEÓOÔOÈSIGN RJES SU NGA ROÎNAM B",
  "CADÈVOWEL SIGN REVERSED IÝIÈSIGN NYI ZLA NAA DAÍSNA LDANÈMARK HALANTAÍPALUTAÈSIGN LCI RTAGSÍYANG ",
  "RTAGSÍLCE TSA CANÍMCHU CANÍGRU CAN RGYINGSÑMED RGYINGSÍINVERTED MCHU CANÉUBJOINED SIGN LCE TSA C",
  "AN×MCHU CAN×INVERTED MCHU CANÒLETTER KAÚHAÙGAÚHAÙNGAÙCAÚHAÙJA#F99ÙNYAÙTTAÛHAÙDDAÛHAÙNNAÙTAÚHAÙDA",
  "ÚHAÙNAÙPAÚHAÙBAÚHAÙMAÙTSAÛHAÙDZAÛHAÙWAÙZHAÚAÙ-AÙYAÙRAÙLAÙSHAÚSAÚAÙHAÙAÙKSSAÙFIXED-FORM WAäYAäRA#",
  "FBEÈKU RU KHAÑ BZHI MIG CANÈCANTILLATION SIGN HEAVY BEATÚLIGHT BEATÚCANG TE-UÚSBUB -CHALÈSYMBOL ",
  "DRIL BUÏRDO RJEÏPADMA GDANÏRDO RJE RGYA GRAMÏPHUR PAÏNOR BUÕ NYIS -KHYILÖGSUM -KHYILÖBZHI -KHYIL",
  "#FCEÉIGN RDEL NAG RDEL DKARÖGSUMÈMARK BSKA- SHOG GI MGO RGYANÍMNYAM YIG GI MGO RGYANÍNYIS TSHEGÍ",
  "INITIAL BRDA RNYING YIG MGO MDUN MAÍCLOSING BRDA RNYING YIG MGO SGAB MAÀRIGHT-FACING SVASTI SIGN",
  "ÀLEFT-FACING SVASTI SIGNÀRIGHT-FACING SVASTI SIGN WITH DOTSÀLEFT-FACING SVASTI SIGN WITH DOTSÀTI",
  "BETAN MARK LEADING MCHAN RTAGSÍTRAILING MCHAN RTAGS#1000ÀMYANMAR LETTER KAÐHAÏGAÐHAÏNGAÏCAÐHAÏJA",
  "ÐHAÏNYAÐNYAÏTTAÑHAÏDDAÑHAÏNNAÏTAÐHAÏDAÐHAÏNAÏPAÐHAÏBAÐHAÏMAÏYAÏRAÏLAÏWAÏSAÏHAÏLLAÏAÏSHAN AÏIÐIÏU",
  "ÐUÏEÏMON EÏOÏAUÈVOWEL SIGN TALL AAÓAAÓIÔIÓUÔUÓEÓAIÓMON II×OÓE ABOVEÈSIGN ANUSVARAÍDOT BELOWÍVISA",
  "RGAÏRAMAÍASATÈCONSONANT SIGN MEDIAL YAÞRAÞWAÞHAÈLETTER GREAT SAÈDIGIT ZEROÎONEÎTWOÏHREEÎFOURÏIVE",
  "ÎSIXÏEVENÎEIGHTÎNINEÈSIGN LITTLE SECTIONÍSECTIONÉYMBOL LOCATIVEÏCOMPLETEDÏAFOREMENTIONEDÏGENITIV",
  "EÈLETTER SHAÐSAÏVOCALIC RØR×LØLÈVOWEL SIGN VOCALIC RÜRÛLÜLÈLETTER MON NGAÓJHAÓBBAÕEÈCONSONANT SI",
  "GN MON MEDIAL NAâMAâLAÈLETTER SGAW KAREN SHAÈVOWEL SIGN SGAW KAREN EUÈTONE MARK SGAW KAREN HATHI",
  "ÝKE PHOÈLETTER WESTERN PWO KAREN THAáPWAÈVOWEL SIGN WESTERN PWO KAREN EUåUEÈSIGN WESTERN PWO KAR",
  "EN TONE-1ä2ä3ä4ä5ÈLETTER EASTERN PWO KAREN NNAáYWAáGHWAÈVOWEL SIGN GEBA KAREN IÓKAYAH OEÙUÙEEÈLE",
  "TTER SHAN KAÕHAÔGAÔCAÔZAÔNYAÔDAÔNAÔPHAÔFAÔBAÔTHAÔHAÈCONSONANT SIGN SHAN MEDIAL WAÈVOWEL SIGN SHA",
  "N AAØEÙ ABOVEØFINAL YÈSIGN SHAN TONE-2×3×5×6ÒCOUNCIL TONE-2ß3ÚEMPHATIC TONEÈLETTER RUMAI PALAUNG ",
  "FAÈSIGN RUMAI PALAUNG TONE-5ÉHAN DIGIT ZEROÓONEÓTWOÔHREEÓFOURÔIVEÓSIXÔEVENÓEIGHTÓNINEÉIGN KHAMTI ",
  "TONE-1Ù3ÈVOWEL SIGN AITON AÚIÈSYMBOL SHAN ONEÔEXCLAMATIONÀGEORGIAN CAPITAL LETTER ANØBANØGANØDON",
  "ØENØVINØZENØTANØINØKANØLASØMANØNARØONØPARØZHARØRAEØSANØTARØUNØPHARØKHARØGHANØQARØSHINØCHINÙANØJI",
  "LØCILÙHARØXANØJHANØHAEÙEÙIEØWEØHARÙOE#10C7ØYN#10CDØAEN#10D0ÉLETTER ANÐBANÐGANÐDONÐENÐVINÐZENÐTAN",
  "ÐINÐKANÐLASÐMANÐNARÐONÐPARÐZHARÐRAEÐSANÐTARÐUNÐPHARÐKHARÐGHANÐQARÐSHINÐCHINÑANÐJILÐCILÑHARÐXANÐJ",
  "HANÐHAEÑEÑIEÐWEÐHARÑOEÐFIÐYNÐELIFIÐTURNED GANÐAINÉPARAGRAPH SEPARATORÀMODIFIER LETTER GEORGIAN N",
  "ARÀGEORGIAN LETTER AENÐHARD SIGNÐLABIAL SIGNÀHANGUL CHOSEONG KIYEOKÐSSANGKIYEOKÐNIEUNÐTIKEUTÐSSA",
  "NGTIKEUTÐRIEULÐMIEUMÐPIEUPÐSSANGPIEUPÑIOSÑSANGSIOSÐIEUNGÐCIEUCÐSSANGCIEUCÐCHIEUCHÐKHIEUKHÐTHIEUT",
  "HÐPHIEUPHÐHIEUHÐNIEUN-KIYEOKÐSSANGNIEUNÐNIEUN-TIKEUTÖPIEUPÐTIKEUT-KIYEOKÐRIEUL-NIEUNÐSSANGRIEULÐ",
  "RIEUL-HIEUHÐKAPYEOUNRIEULÐMIEUM-PIEUPÐKAPYEOUNMIEUMÐPIEUP-KIYEOKÖNIEUNÖTIKEUTÖSIOSÚ-KIYEOKÛTIKEU",
  "TÛPIEUP×SANGSIOS×IOS-CIEUCÖCIEUC×HIEUCHÖTHIEUTHÖPHIEUPHÐKAPYEOUNPIEUPØSSANGPIEUPÐSIOS-KIYEOKÕNIE",
  "UNÕTIKEUTÕRIEULÕMIEUMÕPIEUPÚ-KIYEOKÕSSANGSIOSÕIEUNGÕCIEUCÖHIEUCHÕKHIEUKHÕTHIEUTHÕPHIEUPHÕHIEUHÐC",
  "HITUEUMSIOSÙSANGSIOSÑEONGCHIEUMSIOSÜSANGSIOSÐPANSIOSÐIEUNG-KIYEOKÖTIKEUTÖMIEUMÖPIEUPÖSIOSÖPANSIO",
  "SÐSSANGIEUNGÐIEUNG-CIEUC×HIEUCHÖTHIEUTHÖPHIEUPHÐYESIEUNGÐCIEUC-IEUNGÑHITUEUMCIEUCØSSANGCIEUCÑEON",
  "GCHIEUMCIEUCÛSSANGCIEUCÑHIEUCH-KHIEUKHØHIEUHÓTUEUMCHIEUCHÑEONGCHIEUMCHIEUCHÐPHIEUPH-PIEUPÐKAPYEO",
  "UNPHIEUPHÐSSANGHIEUHÐYEORINHIEUHÐKIYEOK-TIKEUTÐNIEUN-SIOSÖCIEUCÖHIEUHÐTIKEUT-RIEULÐFILLERÇJUNGSE",
  "ONG FILLERÑAÒEÑYAÓEÑEOÒÑYEOÓÑOÑWAÓEÑOEÑYOÑUÑWEOÓÒIÑYUÑEUÑYIÑIÑA-OÓUÑYA-OÔYOÑEO-OÔUÔEUÑYEO-OÕUÑO-",
  "EOÔÓYEÓOÓUÑYO-YAÖEÕEOÔOÔIÑU-AÔEÓEO-EUÓYEÓUÑYU-AÔEOÕÔYEOÖÔUÔIÑEU-UÔEUÑYI-UÑI-AÓYAÓOÓUÓEUÓARAEAÑAR",
  "AEAÖ-EO×U×IÑSSANGARAEAÑA-EUÑYA-UÒEO-YAÑO-YAÕEÈONGSEONG KIYEOKÑSSANGKIYEOKÑKIYEOK-SIOSÑNIEUNÖ-CIE",
  "UC×HIEUHÑTIKEUTÑRIEULÖ-KIYEOK×MIEUM×PIEUP×SIOS×THIEUTH×PHIEUPH×HIEUHÑMIEUMÑPIEUPÖ-SIOSÑSIOSÒSANG",
  "SIOSÑIEUNGÑCIEUCÒHIEUCHÑKHIEUKHÑTHIEUTHÑPHIEUPHÑHIEUHÑKIYEOK-RIEULØSIOS-KIYEOKÑNIEUN-KIYEOK×TIKE",
  "UT×SIOS×PANSIOS×THIEUTHÑTIKEUT-KIYEOKØRIEULÑRIEUL-KIYEOK-SIOS×NIEUN×TIKEUTÝ-HIEUHÑSSANGRIEULÑRIE",
  "UL-MIEUM-KIYEOKÝSIOS×PIEUP-SIOSÝHIEUH×KAPYEOUNPIEUP×SSANGSIOS×PANSIOS×KHIEUKH×YEORINHIEUHÑMIEUM-",
  "KIYEOK×RIEUL×PIEUP×SIOSØSANGSIOS×PANSIOS×CHIEUCH×HIEUHÑKAPYEOUNMIEUMÑPIEUP-RIEUL×PHIEUPH×HIEUHÑK",
  "APYEOUNPIEUPÑSIOS-KIYEOKÖTIKEUTÖRIEULÖPIEUPÑPANSIOSÑIEUNG-KIYEOK×SSANGKIYEOKÑSSANGIEUNGÑIEUNG-KH",
  "IEUKHÑYESIEUNGÙ-SIOSÚPANSIOSÑPHIEUPH-PIEUPÑKAPYEOUNPHIEUPHÑHIEUH-NIEUN×RIEUL×MIEUM×PIEUPÑYEORINH",
  "IEUHÑKIYEOK-NIEUNØPIEUPØCHIEUCHØKHIEUKHØHIEUHÑSSANGNIEUNÀETHIOPIC SYLLABLE HAÓUÓIÓAAÓEEÔÓOÔAÒLAÓ",
  "UÓIÓAAÓEEÔÓOÓWAÒHHAÔUÔIÔAAÔEEÕÔOÔWAÒMAÓUÓIÓAAÓEEÔÓOÓWAÒSZAÔUÔIÔAAÔEEÕÔOÔWAÒRAÓUÓIÓAAÓEEÔÓOÓWAÒSA",
  "ÓUÓIÓAAÓEEÔÓOÓWAÓHAÔUÔIÔAAÔEEÕÔOÔWAÒQAÓUÓIÓAAÓEEÔÓOÔAÓWA#124AÔIÔAAÔEEÕ#1250ÓHAÔUÔIÔAAÔEEÕÔO#1258",
  "ÔWA#125AÕIÕAAÕEEÖ#1260ÒBAÓUÓIÓAAÓEEÔÓOÓWAÒVAÓUÓIÓAAÓEEÔÓOÓWAÒTAÓUÓIÓAAÓEEÔÓOÓWAÒCAÓUÓIÓAAÓEEÔÓOÓ",
  "WAÒXAÓUÓIÓAAÓEEÔÓOÔAÓWA#128AÔIÔAAÔEEÕ#1290ÒNAÓUÓIÓAAÓEEÔÓOÓWAÓYAÔUÔIÔAAÔEEÕÔOÔWAÒGLOTTAL AÚUÚIÚA",
  "AÚEEÛÚOÚWAÒKAÓUÓIÓAAÓEEÔÓOÔAÓWA#12B2ÔIÔAAÔEEÕ#12B8ÓXAÔUÔIÔAAÔEEÕÔO#12C0ÔWA#12C2ÕIÕAAÕEEÖ#12C8ÒWA",
  "ÓUÓIÓAAÓEEÔÓOÔAÒPHARYNGEAL AÝUÝIÝAAÝEEÞÝO#12D8ÒZAÓUÓIÓAAÓEEÔÓOÓWAÓHAÔUÔIÔAAÔEEÕÔOÔWAÒYAÓUÓIÓAAÓE",
  "EÔÓOÔAÒDAÓUÓIÓAAÓEEÔÓOÓWAÓDAÔUÔIÔAAÔEEÕÔOÔWAÒJAÓUÓIÓAAÓEEÔÓOÓWAÒGAÓUÓIÓAAÓEEÔÓOÔAÓWA#1312ÔIÔAAÔE",
  "EÕ#1318ÓGAÔUÔIÔAAÔEEÕÔOÔWAAÒTHAÔUÔIÔAAÔEEÕÔOÔWAÒCHAÔUÔIÔAAÔEEÕÔOÔWAÒPHAÔUÔIÔAAÔEEÕÔOÔWAÒTSAÔUÔIÔ",
  "AAÔEEÕÔOÔWAÓZAÔUÔIÔAAÔEEÕÔOÕAÒFAÓUÓIÓAAÓEEÔÓOÓWAÒPAÓUÓIÓAAÓEEÔÓOÓWAÒRYAÒMYAÒFYA#135DÉCOMBINING G",
  "EMINATION AND VOWEL LENGTH MARKÓVOWEL LENGTH MARKÓGEMINATION MARKÉSECTION MARKÉWORDSPACEÉFULL ST",
  "OPÉCOMMAÉSEMICOLONÉCOLONÉPREFACE COLONÉQUESTION MARKÉPARAGRAPH SEPARATORÉDIGIT ONEÏTWOÐHREEÏFOUR",
  "ÐIVEÏSIXÐEVENÏEIGHTÏNINEÉNUMBER TENÑWENTYÑHIRTYÐFORTYÑIFTYÐSIXTYÑEVENTYÐEIGHTYÐNINETYÐHUNDREDÐTE",
  "N THOUSAND#1380ÉSYLLABLE SEBATBEIT MWAÒMWIÔEEÕÒSEBATBEIT BWAÒBWIÔEEÕÒSEBATBEIT FWAÒFWIÔEEÕÒSEBAT",
  "BEIT PWAÒPWIÔEEÕÉTONAL MARK YIZETÔDERETÔRIKRIKÔSHORT RIKRIKÔDIFATÔKENATÔCHIRETÔHIDETÔDERET-HIDET",
  "ÔKURT#13A0ÀCHEROKEE LETTER AÐEÐIÐOÐUÐVÐGAÐKAÐGEÑIÑOÑUÑVÐHAÑEÑIÑOÑUÑVÐLAÑEÑIÑOÑUÑVÐMAÑEÑIÑOÑUÐNAÐ",
  "HNAÐNAHÑEÑIÑOÑUÑVÐQUAÒEÒIÒOÒUÒVÐSAÑÑEÑIÑOÑUÑVÐDAÐTAÐDEÐTEÐDIÐTIÐDOÑUÑVÑLAÐTLAÒEÒIÒOÒUÒVÑSAÒEÒIÒO",
  "ÒUÒVÐWAÑEÑIÑOÑUÑVÐYAÑEÑIÑOÑUÑVÐMV#13F8ÉSMALL LETTER YE×I×O×U×VÖMV#1400ÁANADIAN SYLLABICS HYPHENÓ",
  "EÓAAIÓIÔIÓOÔOÓY-CREE OOÓCARRIER EEÛIÓAÔAÓWEÕST-CREE WEÔIÔEST-CREE WIÔIIÔEST-CREE WIIÔOÔEST-CREE ",
  "WOÔOOÔEST-CREE WOOÓNASKAPI WOOÓWAÔEST-CREE WAÔAAÔEST-CREE WAAÓNASKAPI WAAÓAIÓY-CREE WÓGLOTTAL ST",
  "OPÓFINAL ACUTEÙGRAVEÙBOTTOM HALF RINGÙTOP HALF RINGÙRIGHT HALF RINGÛNGÙDOUBLE ACUTEàSHORT VERTIC",
  "AL STROKESÙMIDDLE DOTÙSHORT HORIZONTAL STROKEÙPLUSÙDOWN TACKÓENÓINÓONÓANÓPEÔAAIÔIÕIÔOÕOÓY-CREE P",
  "OOÓCARRIER HEEÜIÓPAÕAÔWEÓWEST-CREE PWEÓPWIÓWEST-CREE PWIÓPWIIÓWEST-CREE PWIIÓPWOÓWEST-CREE PWOÓP",
  "WOOÓWEST-CREE PWOOÓPWAÓWEST-CREE PWAÓPWAAÓWEST-CREE PWAAÓY-CREE PWAAÓPÓWEST-CREE PÓCARRIER HÓTEÔ",
  "AAIÔIÕIÔOÕOÓY-CREE TOOÓCARRIER DEEÜIÓTAÕAÔWEÓWEST-CREE TWEÓTWIÓWEST-CREE TWIÓTWIIÓWEST-CREE TWII",
  "ÓTWOÓWEST-CREE TWOÓTWOOÓWEST-CREE TWOOÓTWAÓWEST-CREE TWAÓTWAAÓWEST-CREE TWAAÓNASKAPI TWAAÓTÔTEÕI",
  "ÕOÕAÓKEÔAAIÔIÕIÔOÕOÓY-CREE KOOÓKAÕAÔWEÓWEST-CREE KWEÓKWIÓWEST-CREE KWIÓKWIIÓWEST-CREE KWIIÓKWOÓW",
  "EST-CREE KWOÓKWOOÓWEST-CREE KWOOÓKWAÓWEST-CREE KWAÓKWAAÓWEST-CREE KWAAÓNASKAPI KWAAÓKÔWÓSOUTH-SL",
  "AVEY KEHáIHáOHáAHÓCEÔAAIÔIÕIÔOÕOÓY-CREE COOÓCAÕAÔWEÓWEST-CREE CWEÓCWIÓWEST-CREE CWIÓCWIIÓWEST-CR",
  "EE CWIIÓCWOÓWEST-CREE CWOÓCWOOÓWEST-CREE CWOOÓCWAÓWEST-CREE CWAÓCWAAÓWEST-CREE CWAAÓNASKAPI CWAA",
  "ÓCÓSAYISI THÓMEÔAAIÔIÕIÔOÕOÓY-CREE MOOÓMAÕAÔWEÓWEST-CREE MWEÓMWIÓWEST-CREE MWIÓMWIIÓWEST-CREE MW",
  "IIÓMWOÓWEST-CREE MWOÓMWOOÓWEST-CREE MWOOÓMWAÓWEST-CREE MWAÓMWAAÓWEST-CREE MWAAÓNASKAPI MWAAÓMÓWE",
  "ST-CREE MÓMHÓATHAPASCAN MÓSAYISI MÓNEÔAAIÔIÕIÔOÕOÓY-CREE NOOÓNAÕAÔWEÓWEST-CREE NWEÓNWAÓWEST-CREE ",
  "NWAÓNWAAÓWEST-CREE NWAAÓNASKAPI NWAAÔÓCARRIER NGÓNHÓLEÔAAIÔIÕIÔOÕOÓY-CREE LOOÓLAÕAÔWEÓWEST-CREE ",
  "LWEÓLWIÓWEST-CREE LWIÓLWIIÓWEST-CREE LWIIÓLWOÓWEST-CREE LWOÓLWOOÓWEST-CREE LWOOÓLWAÓWEST-CREE LW",
  "AÓLWAAÓWEST-CREE LWAAÓLÓWEST-CREE LÓMEDIAL LÓSEÔAAIÔIÕIÔOÕOÓY-CREE SOOÓSAÕAÔWEÓWEST-CREE SWEÓSWI",
  "ÓWEST-CREE SWIÓSWIIÓWEST-CREE SWIIÓSWOÓWEST-CREE SWOÓSWOOÓWEST-CREE SWOOÓSWAÓWEST-CREE SWAÓSWAAÓ",
  "WEST-CREE SWAAÓNASKAPI SWAAÓSÓATHAPASCAN SÓSWÓBLACKFOOT SÓMOOSE-CREE SKÓNASKAPI SKWÜ-WÜPWAÜTWAÜK",
  "WAÜCWAÓSHEÕIÖIÕOÖOÕAÖAÕWEÓWEST-CREE SHWEÓSHWIÓWEST-CREE SHWIÓSHWIIÓWEST-CREE SHWIIÓSHWOÓWEST-CRE",
  "E SHWOÓSHWOOÓWEST-CREE SHWOOÓSHWAÓWEST-CREE SHWAÓSHWAAÓWEST-CREE SHWAAÓSHÓYEÔAAIÔIÕIÔOÕOÔ-CREE Y",
  "OOÔAÕAÔWEÓWEST-CREE YWEÓYWIÓWEST-CREE YWIÓYWIIÓWEST-CREE YWIIÓYWOÓWEST-CREE YWOÓYWOOÓWEST-CREE Y",
  "WOOÓYWAÓWEST-CREE YWAÓYWAAÓWEST-CREE YWAAÓNASKAPI YWAAÓYÓBIBLE-CREE YÓWEST-CREE YÓSAYISI YIÓREÔ-",
  "CREE REÓWEST-CREE LEÓRAAIÔIÕIÔOÕOÓWEST-CREE LOÓRAÕAÓWEST-CREE LAÓRWAAÓWEST-CREE RWAAÓRÓWEST-CREE ",
  "RÓMEDIAL RÓFEÔAAIÔIÕIÔOÕOÔAÕAÔWAAÓWEST-CREE FWAAÓFÓTHEÓN-CREE THEÓTHIÓN-CREE THIÓTHIIÓN-CREE THI",
  "IÓTHOÖOÕAÖAÕWAAÓWEST-CREE THWAAÓTHÔTHEÖIÖOÖAÖÔYEÕIÕOÕAÓNUNAVIK HEÜIÝIÜOÝOÜAÝAÜØUT HÓHKÓQAAIÔIÕIÔ",
  "OÕOÔAÕAÔÓTLHEÖIÖOÖAÓWEST-CREE REÞIÞOÞAÓNGAAIÕIÖIÕOÖOÕAÖAÕÔNGÓSAYISI SHEÜIÜOÜAÓWOODS-CREE THEàIàO",
  "àAàÓLHIÖIÕOÖOÕAÖAÕÓTH-CREE THEÝIÞIÝOÞOÝAÞAÝÓAIVILIK BÓBLACKFOOT EÝIÝOÝAÝWEÞIÞOÞAÝNEÞIÞOÞAÝKEÞIÞO",
  "ÞAÓSAYISI HEÛIÛOÛAÓCARRIER GHUÝOÝEÞEÝIÝAÛRUÜOÜEÝEÜIÜAÛWUÜOÜEÝEÜIÜAÛHWUÝOÝEÞEÝIÝAÛTHUÝOÝEÞEÝIÝAÜT",
  "UÝOÝEÞEÝIÝAÛPUÜOÜEÝEÜIÜAÜÛGUÜOÜEÝEÜIÜAÛKHUÝOÝEÞEÝIÝAÜKUÝOÝEÞEÝIÝAÝÛNUÜOÜEÝEÜIÜAÛMUÜOÜEÝEÜIÜAÛYUÜ",
  "OÜEÝEÜIÜAÛJUÓSAYISI JUÓCARRIER JOÜEÝEÜIÓSAYISI JIÓCARRIER JAÜJUÝOÝEÞEÝIÝAÛLUÜOÜEÝEÜIÜAÛDLUÝOÝEÞE",
  "ÝIÝAÛLHUÝOÝEÞEÝIÝAÛTLHUÞOÞEßEÞIÞAÝUÝOÝEÞEÝIÝAÛZUÜOÜEÝEÜIÜAÜÛINITIAL ZÛDZUÝOÝEÞEÝIÝAÛSUÜOÜEÝEÜIÜA",
  "ÜHUÝOÝEÞEÝIÝAÝÛTSUÝOÝEÞEÝIÝAÛCHUÝOÝEÞEÝIÝAÛTTSUÞOÞEßEÞIÞAÔHI SIGNÓFULL STOPÓQAIÓNGAIÔNGI×IÖO×OÖA",
  "×AÓWOODS-CREE THWEEáIâIáOâOáAâAÞFINAL THÓBLACKFOOT WÀOGHAM SPACE MARKÆLETTER BEITHÍLUISÍFEARNÍSA",
  "ILÍNIONÍUATHÍDAIRÍTINNEÍCOLLÎEIRTÍMUINÍGORTÍNGEADALÍSTRAIFÍRUISÍAILMÍONNÍURÍEADHADHÍIODHADHÍEABH",
  "ADHÍORÍUILLEANNÍIFINÍEAMHANCHOLLÍPEITHÆFEATHER MARKÆREVERSED FEATHER MARK#16A0ÀRUNIC LETTER FEHU ",
  "FEOH FE FÍVÍURUZ UR UÍYRÎÍWÍTHURISAZ THURS THORNÍETHÍANSUZ AÍOS OÍAC AÎESCÍLONG-BRANCH-OSS OÍSHO",
  "RT-TWIG-OSS OÍOÎEÎNÍRAIDO RAD REID RÍKAUNAÍCENÍKAUN KÍGÍENGÍGEBO GYFU GÎARÍWUNJO WYNN WÍHAGLAZ H",
  "ÏEGL HÍLONG-BRANCH-HAGALL HÍSHORT-TWIG-HAGALL HÍNAUDIZ NYD NAUD NÍSHORT-TWIG-NAUD NÍDOTTED-NÍISA",
  "Z IS ISS IÍEÍJERAN JÍGERÍLONG-BRANCH-AR AEÍSHORT-TWIG-AR AÍIWAZ EOHÍPERTHO PEORTH PÍALGIZ EOLHXÍ",
  "SOWILO SÎIGEL LONG-BRANCH-SOL SÎHORT-TWIG-SOL SÍCÍZÍTIWAZ TIR TYR TÍSHORT-TWIG-TYR TÍDÍBERKANAN ",
  "BEORC BJARKAN BÍSHORT-TWIG-BJARKAN BÍDOTTED-PÍOPEN-PÍEHWAZ EH EÍMANNAZ MAN MÍLONG-BRANCH-MADR MÍ",
  "SHORT-TWIG-MADR MÍLAUKAZ LAGU LOGR LÍDOTTED-LÍINGWAZÐÍDAGAZ DAEG DÍOTHALAN ETHEL OÍEARÍIORÍCWEOR",
  "THÎALCÎEALCÍSTANÍLONG-BRANCH-YRÍSHORT-TWIG-YRÍICELANDIC-YRÍQÍXÆSINGLE PUNCTUATIONÆMULTIPLE PUNCT",
  "UATIONÆCROSS PUNCTUATIONÆARLAUG SYMBOLÆTVIMADUR SYMBOLÆBELGTHOR SYMBOLÆLETTER KÍSHÍOOÍFRANKS CAS",
  "KET OSÛISÛEHÛACÜESC#1700ÀTAGALOG LETTER AÏIÏUÏKAÏGAÏNGAÏTAÏDAÏNAÏPAÏBAÏMAÏYAÏRAÏLAÏWAÏSAÏHAÈVOWE",
  "L SIGN IÓUÈSIGN VIRAMAÍPAMUDPOD#171FÈLETTER ARCHAIC RAÀHANUNOO LETTER AÏIÏUÏKAÏGAÏNGAÏTAÏDAÏNAÏP",
  "AÏBAÏMAÏYAÏRAÏLAÏWAÏSAÏHAÈVOWEL SIGN IÓUÈSIGN PAMUDPODÀPHILIPPINE SINGLE PUNCTUATIONËDOUBLE PUNC",
  "TUATION#1740ÀBUHID LETTER AÍIÍUÍKAÍGAÍNGAÍTAÍDAÍNAÍPAÍBAÍMAÍYAÍRAÍLAÍWAÍSAÍHAÆVOWEL SIGN IÑU#176",
  "0ÀTAGBANWA LETTER AÐIÐUÐKAÐGAÐNGAÐTAÐDAÐNAÐPAÐBAÐMAÐYA#176EÐLAÐWAÐSA#1772ÉVOWEL SIGN IÔU#1780ÀKH",
  "MER LETTER KAÎHAÎOÎHOÍNGOÍCAÎHAÎOÎHOÍNYOÍDAÍTTHAÍDOÍTTHOÍNNOÍTAÎHAÎOÎHOÍNOÍBAÍPHAÎOÎHOÍMOÍYOÍROÍ",
  "LOÍVOÍSHAÎSOÎAÍHAÍLAÍQAÆINDEPENDENT VOWEL QAQÚAÙIÚIÙUÚKÚUÛVØRYÚYØLYÚYØQEÙAIÙOO TYPE ONEáTWOÙAUÆV",
  "OWEL INHERENT AQÖAÌSIGN AAÑIÒIÑYÒYÑUÒUÒAÑOEÑYAÑIEÑEÑAEÒIÑOOÑAUÆSIGN NIKAHITËREAHMUKËYUUKALEAPINT",
  "UËMUUSIKATOANËTRIISAPËBANTOCËROBATËTOANDAKHIATËKAKABATËAHSDAËSAMYOK SANNYAËVIRIAMËCOENGËBATHAMAS",
  "ATËKHANËBARIYOOSANËCAMNUC PII KUUHËLEK TOOËBEYYALËPHNAEK MUANËKOOMUUTÆCURRENCY SYMBOL RIELÆSIGN ",
  "AVAKRAHASANYAÌTTHACAN#17E0ÆDIGIT ZEROÌONEÌTWOÍHREEÌFOURÍIVEÌSIXÍEVENÌEIGHTÌNINE#17F0ÆSYMBOL LEK ",
  "ATTAK SON×MUOY×PII×BEIØUON×PRAMÛ-MUOYÜPIIÜBEIÝUON#1800ÀMONGOLIAN BIRGAÊELLIPSISÊCOMMAÊFULL STOPÊ",
  "COLONÊFOUR DOTSÊTODO SOFT HYPHENÊSIBE SYLLABLE BOUNDARY MARKERÊMANCHU COMMAÑFULL STOPÊNIRUGUÊFRE",
  "E VARIATION SELECTOR ONEâTWOãHREEÊVOWEL SEPARATORÊFREE VARIATION SELECTOR FOURÊDIGIT ZEROÐONEÐTW",
  "OÑHREEÐFOURÑIVEÐSIXÑEVENÐEIGHTÐNINE#1820ÊLETTER AÑEÑIÑOÑUÑOEÑUEÑEEÑNAÑANGÑBAÑPAÑQAÑGAÑMAÑLAÑSAÒH",
  "AÑTAÑDAÑCHAÑJAÑYAÑRAÑWAÑFAÑKAÒHAÑTSAÑZAÑHAAÑZRAÑLHAÑZHIÑCHIÑTODO LONG VOWEL SIGNÖEÖIÖOÖUÖOEÖUEÖA",
  "NGÖBAÖPAÖQAÖGAÖMAÖTAÖDAÖCHAÖJAÖTSAÖYAÖWAÖKAÖGAAÖHAAÖJIAÖNIAÖDZAÑSIBE EÖI×YÖUE×ÖANGÖKAÖGAÖHAÖPAÖS",
  "HAÖTAÖDAÖJAÖFAÖGAAÖHAAÖTSAÖZAÖRAAÖCHAÖZHAÑMANCHU IØKAØRAØFAØZHAÑCHA WITH TWO DOTS#1880ÑALI GALI ",
  "ANUSVARA ONEÚVISARGA ONEÚDAMARUÚUBADAMAÚINVERTED UBADAMAÚBALUDAÚTHREE BALUDAÚAÚIÚKAÚNGAÚCAÚTTAÜH",
  "AÚDDAÚNNAÚTAÚDAÚPAÛHAÚSSAÚZHAÛAÚAHÑTODO ALI GALI TAßZHAÑMANCHU ALI GALI GHAáNGAáCAáJHAáTTAáDDHAá",
  "TAáDHAáSSAáCYAáZHAâAÑALI GALI HALF UßYAÑMANCHU ALI GALI BHAÑALI GALI DAGALGAÑMANCHU ALI GALI LHA",
  "#18B0ÀCANADIAN SYLLABICS OYÓAYÔAYÓWAYÓPOYÔAYÔWOYÓTAYÓKAYÔWAYÓMAYÓNOYÔAYÓLAYÓSOYÔAYÔHOYÕAYÕWOYÓYO",
  "YÔAYÓRAYÓNWIÓOJIBWAY NWIÓNWIIÓOJIBWAY NWIIÓNWOÓOJIBWAY NWOÓNWOOÓOJIBWAY NWOOÓRWEEÕIÖIÕOÖOÕAÓOJIB",
  "WAY PÛTÛKÛCÛMÛNÛSÜHÓEASTERN WÓWESTERN WÓFINAL SMALL RINGÙRAISED DOTÓR-CREE RWEÓWEST-CREE LOOÞAAÓ",
  "THWEÖAÔTHWEÖOOÖAAÔLHWEÖOOÓSAYISI SHWEÜOOÚHOOÓCARRIER GWUÛDENE GEEÛGAAÜWAÓSAYISI JUUÓCARRIER JWAÓ",
  "BEAVER DENE LßRÓCARRIER DENTAL S#1900ÀLIMBU VOWEL-CARRIER LETTERÆLETTER KAÎHAÍGAÎHAÍNGAÍCAÎHAÍJA",
  "ÎHAÍYANÍTAÎHAÍDAÎHAÍNAÍPAÎHAÍBAÎHAÍMAÍYAÍRAÍLAÍWAÍSHAÎSAÎAÍHAÍGYANÍTRA#1920ÆVOWEL SIGN AÑIÑUÑEEÑ",
  "AIÑOOÑAUÑEÑOÆSUBJOINED LETTER YA×RA×WA#1930ÇMALL LETTER KAÓNGAÓANUSVARAÓTAÓNAÓPAÓMAÓRAÓLAÇIGN MU",
  "KPHRENGËKEMPHRENGËSA-I#1940ËLOO#1944ÆEXCLAMATION MARKÆQUESTION MARKÆDIGIT ZEROÌONEÌTWOÍHREEÌFOUR",
  "ÍIVEÌSIXÍEVENÌEIGHTÌNINEÀTAI LE LETTER KAÎXAÎNGAÎTSAÎSAÎYAÎTAÏHAÎLAÎPAÏHAÎMAÎFAÎVAÎHAÎQAÎKHAÎTSH",
  "AÎNAÎAÎIÎEEÏHÎUÎOOÏÎUEÎEÎAUEÏI#1970ÎTONE-2Ó3Ó4Ó5Ó6#1980ÀNEW TAI LUE LETTER HIGH QAÓLOW QAÓHIGH K",
  "AØXAØNGAÓLOW KA×XA×NGAÓHIGH TSAØSAØYAÓLOW TSA×SA×YAÓHIGH TAÙHAØNAÓLOW TAØHA×NAÓHIGH PAÙHAØMAÓLOW ",
  "PAØHA×MAÓHIGH FAØVAØLAÓLOW FA×VA×LAÓHIGH HAØDAØBAÓLOW HA×DA×BAÓHIGH KVAØXVAÓLOW KVA×XVAÓHIGH SUA",
  "ÓLOW SUA#19B0ÌVOWEL SIGN VOWEL SHORTENER×AA×II×UØU×E×AE×OØA×UE×AYØAY×UY×OYØAY×UEY×IYÌLETTER FINA",
  "L VÙNGÚÙMÙKÙDÙBÌTONE MARK-1Ö2#19D0ÌDIGIT ZEROÒONEÒTWOÓHREEÒFOURÓIVEÒSIXÓEVENÒEIGHTÒNINEÌTHAM DIG",
  "IT ONE#19DEÌSIGN LAEÔVÀKHMER SYMBOL PATHAMASATÍMUOY KOETÍPII KOETÍBEI KOETÎUON KOETÍPRAM KOETÑ-M",
  "UOY KOETÒPII KOETÒBEI KOETÓUON KOETÍDAP KOETÐ-MUOY KOETÑPII KOETÑBEI KOETÒUON KOETÑPRAM KOETÍTUT",
  "EYASATÍMUOY ROCÍPII ROCÍBEI ROCÎUON ROCÍPRAM ROCÑ-MUOY ROCÒPII ROCÒBEI ROCÓUON ROCÍDAP ROCÐ-MUOY ",
  "ROCÑPII ROCÑBEI ROCÒUON ROCÑPRAM ROCÀBUGINESE LETTER KAÐGAÐNGAÒKAÐPAÐBAÐMAÑPAÐTAÐDAÐNAÑRAÐCAÐJAÐ",
  "NYAÒCAÐYAÐRAÐLAÐVAÐSAÐAÐHAÉVOWEL SIGN IÔUÔEÔOÔAE#1A1EÉPALLAWAÉEND OF SECTIONÀTAI THAM LETTER HIG",
  "H KAÖHAÖXAÐLOW KAÕXAÕHAÐNGAÐHIGH CAÖHAÐLOW CAÔSAÔCHAÐNYAÐRATAÐHIGH RATHAÐDAÐLOW RATHAÐRANAÐHIGH ",
  "TAÖHAÐLOW TAÕHAÐNAÐBAÐHIGH PAÖHAÕFAÐLOW PAÔFAÔPHAÐMAÐLOW YAÐHIGH YAÐRAÑUEÐLAÑUEÐWAÐHIGH SHAÖSAÖA",
  "ÕHAÐLLAÐAÐLOW HAÐIÑIÐUÑUÐEEÐOOÐLAEÐGREAT SAÉCONSONANT SIGN MEDIAL RAßLAØLA TANG LAIÉSIGN MAI KAN",
  "G LAIÉCONSONANT SIGN FINAL NGAØLOW PAØHIGH RATHA OR LOW PAØMAØBAØSA#1A60ÉSIGN SAKOTÉVOWEL SIGN A",
  "ÔMAI SATÔAAÔTALL AAÔIÕIÔUEÕUEÕÕUÔOÕA BELOWÕYÔEÔAEÔOOÔAIÔTHAM AIÔOA ABOVEÉSIGN MAI KANGÎTONE-1Ó2Î",
  "KHUEN TONE-3Ù4Ù5ÎRA HAAMÎMAI SAMÎKHUEN-LUE KARAN#1A7FÉCOMBINING CRYPTOGRAMMIC DOTÉHORA DIGIT ZER",
  "OÔONEÔTWOÕHREEÔFOURÕIVEÔSIXÕEVENÔEIGHTÔNINE#1A90ÉTHAM DIGIT ZEROÔONEÔTWOÕHREEÔFOURÕIVEÔSIXÕEVENÔ",
  "EIGHTÔNINE#1AA0ÉSIGN WIANGÓWAAKÎSAWANÎKEOWÎHOYÎDOKMAIÎREVERSED ROTATED RANAÎMAI YAMOKÎKAANÒKUUÎS",
  "ATKAANÕKUUÎHANGÎCAANG#1AB0ÀCOMBINING DOUBLED CIRCUMFLEX ACCENTËIAERESIS-RINGÊINFINITYÊDOWNWARDS ",
  "ARROWÊTRIPLE DOTÊX-X BELOWÊWIGGLY LINE BELOWÊOPEN MARK BELOWÊDOUBLE OPEN MARK BELOWÊLIGHT CENTRA",
  "LIZATION STROKE BELOWÊSTRONG CENTRALIZATION STROKE BELOWÊPARENTHESES ABOVEÊDOUBLE PARENTHESES AB",
  "OVEÊPARENTHESES BELOWÖOVERLAYÊLATIN SMALL LETTER W BELOWÝTURNED W BELOWËEFT PARENTHESIS ABOVE LE",
  "FTÊRIGHT PARENTHESIS ABOVE RIGHTÊLEFT PARENTHESIS BELOW LEFTÊRIGHT PARENTHESIS BELOW RIGHTÊSQUAR",
  "E BRACKETS ABOVEÊNUMBER SIGN ABOVEÊINVERTED DOUBLE ARCH ABOVEÊPLUS SIGN ABOVEÊDOUBLE PLUS SIGN A",
  "BOVEÛBELOWÊTRIPLE ACUTE ACCENTÊLATIN SMALL LETTER INSULAR GåRåT#1B00ÀBALINESE SIGN ULU RICEMÒCAN",
  "DRAÎCECEKÎSURANGÎBISAHÉLETTER AKARAÕ TEDUNGÐIKARAÕ TEDUNGÐUKARAÕ TEDUNGÐRA REPA× TEDUNGÐLA LENGA",
  "Ø TEDUNGÐEKARAÐAIKARAÐOKARAÕ TEDUNGÐKAÒ MAHAPRANAÐGAÒ GORAÐNGAÐCAÒ LACAÐJAÒ JERAÐNYAÐTA LATIKÓMU",
  "RDA MAHAPRANAÐDA MURDA ALPAPRANAÙMAHAPRANAÐNA RAMBATÐTAÒ TAWAÐDAÒ MADUÐNAÐPAÒ KAPALÐBAÒ KEMBANGÐ",
  "MAÐYAÐRAÐLAÐWAÐSA SAGAÕPAÒÐHAÉSIGN REREKANÉVOWEL SIGN TEDUNGÔULU× SARIÔSUKUØ ILUTÔRA REPAÛ TEDUN",
  "GÔLA LENGAÜ TEDUNGÔTALINGÚ REPAÛTEDUNGÛREPA TEDUNGÔPEPETÙ TEDUNGÉADEG ADEGÉLETTER KAF SASAKÑHOT ",
  "SASAKÐTZIR SASAKÐEF SASAKÐVE SASAKÐZAL SASAKÐASYURA SASAKÑRCHAIC JNYA#1B50ÉDIGIT ZEROÏONEÏTWOÐHR",
  "EEÏFOURÐIVEÏSIXÐEVENÏEIGHTÏNINEÉPANTIËMADAÉWINDUÉCARIK PAMUNGKAHÏSIKIÏPARERENÉPAMENENGÉMUSICAL S",
  "YMBOL DONGÙENGÙUNGÙANGÜ SURANGÙINGÙAENGÙEUNGÙAINGÚNG GEDEØCOMBINING TEGEHâENDEPâKEMPULæLIâJEGOGA",
  "NâKEMPUL WITH JEGOGANæLI WITH JEGOGANâBENDEâGONGØRIGHT-HAND OPEN DUGéAGãCLOSED TUKëAKØLEFT-HAND ",
  "OPEN PANGèUNGâCLOSED PLAKëUKâOPEN PINGÉPANTI LANTANGËMADA LANTANG#1B80ÀSUNDANESE SIGN PANYECEKÒG",
  "LAYARÓWISADÊLETTER AÑIÑUÑAEÑOÑEÒUÑKAÑQAÑGAÑNGAÑCAÑJAÑZAÑNYAÑTAÑDAÑNAÑPAÑFAÑVAÑBAÑMAÑYAÑRAÑLAÑWAÑ",
  "SAÑXAÑHAÊCONSONANT SIGN PAMINGKALÛNYAKRAÝIKUÊVOWEL SIGN PANGHULUØYUKUØAELAENGØOLONG×MEPET×NEULEU",
  "NGÊSIGN PAMAAEHÏVIRAMAÊCONSONANT SIGN PASANGAN MAâWAÊLETTER KHAÑSYAÊDIGIT ZEROÐONEÐTWOÑHREEÐFOUR",
  "ÑIVEÐSIXÑEVENÐEIGHTÐNINEÊAVAGRAHAÊLETTER REUÑLEUÑBHAÑFINAL K×MÀBATAK LETTER AÍSIMALUNGUN AÍHAÍSI",
  "MALUNGUN HAÍMANDAILING HAÍBAÍKARO BAÍPAÍSIMALUNGUN PAÍNAÍMANDAILING NAÍWAÍSIMALUNGUN WAÍPAKPAK W",
  "AÍGAÍSIMALUNGUN GAÍJAÍDAÍRAÍSIMALUNGUN RAÍMAÍSIMALUNGUN MAÎOUTHERN TAÍNORTHERN TAÍSAÎIMALUNGUN S",
  "AÍMANDAILING SAÍYAÍSIMALUNGUN YAÍNGAÍLAÍSIMALUNGUN LAÍNYAÍCAÍNDAÍMBAÍIÍUÆSIGN TOMPIÆVOWEL SIGN E",
  "ÑPAKPAK EÑEEÑIÑKARO IÑOÑKARO OÑUÒ FOR SIMALUNGUN SAÆCONSONANT SIGN NGÕHÆPANGOLATÉONGONAN#1BFCÆSY",
  "MBOL BINDU NA METEKÓPINARBORASÓJUDULÓPANGOLATÀLEPCHA LETTER KAÏLAÏHAÎGAÏLAÎNGAÎCAÏHAÎJAÎNYAÎTAÏH",
  "AÎDAÎNAÎPAÏLAÏHAÎFAÏLAÎBAÏLAÎMAÏLAÎTSAÐHAÎDZAÎYAÎRAÎLAÎHAÏLAÎVAÎSAÏHAÎWAÎAÇSUBJOINED LETTER YAØR",
  "AÇVOWEL SIGN AAÒIÒOÓOÒUÓUÒEÇCONSONANT SIGN KÖMÖLÖNÖPÖRÖTÖNYIN-DOÖKANGÇSIGN RANÌNUKTA#1C3BÇPUNCTU",
  "ATION TA-ROLÓNYET THYOOM TA-ROLÓCER-WAÓTSHOOK CER-WAÙÇDIGIT ZEROÍONEÍTWOÎHREEÍFOURÎIVEÍSIXÎEVENÍ",
  "EIGHTÍNINE#1C4DÇLETTER TTAÐHAÎDDAÀOL CHIKI DIGIT ZEROÏONEÏTWOÐHREEÏFOURÐIVEÏSIXÐEVENÏEIGHTÏNINEÉ",
  "LETTER LAÐATÑGÑNGÑLÐLAAÐAAKÒJÒMÒWÐLIÐISÑHÑNYÑRÐLUÐUCÑDÑNNÑYÐLEÐEPÑDDÑNÑRRÐLOÐOTTÑBÑVÑHÉMU TTUDDA",
  "GÉGAAHLAA TTUDDAAGÉMU-GAAHLAA TTUDDAAGÉRELAAÉPHAARKAAÉAHADÉPUNCTUATION MUCAADÕDOUBLE MUCAADÀCYRI",
  "LLIC SMALL LETTER ROUNDED VEÖLONG-LEGGED DEÖNARROW OÖWIDE ESÖTALL TE×HREE-LEGGED TE×ALL HARD SIG",
  "NÛYATÖUNBLENDED UK#1C90ÀGEORGIAN MTAVRULI CAPITAL LETTER ANáBANáGANáDONáENáVINáZENáTANáINáKANáLA",
  "SáMANáNARáONáPARáZHARáRAEáSANáTARáUNáPHARáKHARáGHANáQARáSHINáCHINâANáJILáCILâHARáXANáJHANáHAEâEâ",
  "IEáWEáHARâOEáFIáYNáELIFIáTURNED GANáAIN#1CBDâENáHARD SIGNáLABIAL SIGNÀSUNDANESE PUNCTUATION BIND",
  "U SURYAÜPANGLONGÝURNAMAÜCAKRAÜLEU SATANGAÜKA SATANGAÜDA SATANGAÜBA SATANGA#1CD0ÀVEDIC TONE KARSH",
  "ANAËSHARAËPRENKHAÆSIGN NIHSHVASAËYAJURVEDIC MIDLINE SVARITAÆTONE YAJURVEDIC AGGRAVATED INDEPENDE",
  "NT SVARITAÖINDEPENDENT SVARITAÖKATHAKA INDEPENDENT SVARITAËCANDRA BELOWËYAJURVEDIC KATHAKA INDEP",
  "ENDENT SVARITA SCHROEDERËDOUBLE SVARITAËTRIPLE SVARITAËKATHAKA ANUDATTAËDOT BELOWËTWO DOTS BELOW",
  "ÌHREE DOTS BELOWËRIGVEDIC KASHMIRI INDEPENDENT SVARITAËATHARVAVEDIC INDEPENDENT SVARITAÆSIGN VIS",
  "ARGA SVARITAÓUDATTAËREVERSED VISARGA UDATTAËVISARGA ANUDATTAËREVERSED VISARGA ANUDATTAËVISARGA U",
  "DATTA WITH TAILÓANUDATTA WITH TAILËANUSVARA ANTARGOMUKHAÔBAHIRGOMUKHAÔVAMAGOMUKHAß WITH TAILËTIR",
  "YAKËHEXIFORM LONG ANUSVARAËLONG ANUSVARAËRTHANG LONG ANUSVARAËANUSVARA UBHAYATO MUKHAÌRDHAVISARG",
  "AËROTATED ARDHAVISARGAÆTONE CANDRA ABOVEÆSIGN JIHVAMULIYAËUPADHMANIYAËATIKRAMAÆTONE RING ABOVEËD",
  "OUBLE RING ABOVEÆSIGN DOUBLE ANUSVARA ANTARGOMUKHA#1D00ÀLATIN LETTER SMALL CAPITAL AÜEÆSMALL LET",
  "TER TURNED AEÆLETTER SMALL CAPITAL BARRED BÛCÛDÛETHÜÆSMALL LETTER TURNED OPEN EÚIÆLETTER SMALL C",
  "APITAL JÛKÛL WITH STROKEÛMÛREVERSED NÛOÜPEN OÆSMALL LETTER SIDEWAYS OÝPEN OÝ WITH STROKEÓTURNED ",
  "OEÆLETTER SMALL CAPITAL OUÆSMALL LETTER TOP HALF OÓBOTTOM HALF OÆLETTER SMALL CAPITAL PÛREVERSED ",
  "RÛTURNED RÜÛUÆSMALL LETTER SIDEWAYS UÜDIAERESIZED UÜTURNED MÆLETTER SMALL CAPITAL VÛWÛZÛEZHÍVOIC",
  "ED LARYNGEAL SPIRANTÍAINÀGREEK LETTER SMALL CAPITAL GAMMAÛLAMDAÛPIÛRHOÛPSIÀCYRILLIC LETTER SMALL ",
  "CAPITAL ELÀMODIFIER LETTER CAPITAL AÙEØBÙARRED BØDØEØREVERSED EØGØHØIØJØKØLØMØNØREVERSED NØOÙUØP",
  "ØRØTØUØWÐSMALL AÖTURNED AÖALPHAÖTURNED AEÖBÖDÖEÖSCHWAÖOPEN EÖTURNED OPEN EÖGÖTURNED IÖKÖMÖENGÖO×",
  "PEN OÖTOP HALF OÖBOTTOM HALF OÖPÖTÖUÖSIDEWAYS UÖTURNED MÖVÖAINÖBETAÖGREEK GAMMAÖDELTAÖGREEK PHIÖ",
  "CHIÀLATIN SUBSCRIPT SMALL LETTER IÝRÝUÝVÀGREEK SUBSCRIPT SMALL LETTER BETAÝGAMMAÝRHOÝPHIÝCHIÀLAT",
  "IN SMALL LETTER UEÓB WITH MIDDLE TILDEÓD WITH MIDDLE TILDEÓF WITH MIDDLE TILDEÓM WITH MIDDLE TIL",
  "DEÓN WITH MIDDLE TILDEÓP WITH MIDDLE TILDEÓR WITH MIDDLE TILDEÚFISHHOOK AND MIDDLE TILDEÓS WITH ",
  "MIDDLE TILDEÓT WITH MIDDLE TILDEÓZ WITH MIDDLE TILDEÓTURNED GÀMODIFIER LETTER CYRILLIC ENÀLATIN ",
  "SMALL LETTER INSULAR GÓTH WITH STRIKETHROUGHÌCAPITAL LETTER I WITH STROKEÌLETTER IOTA WITH STROK",
  "EÓP WITH STROKEÌCAPITAL LETTER U WITH STROKEÌLETTER UPSILON WITH STROKEÓB WITH PALATAL HOOKÓD WI",
  "TH PALATAL HOOKÓF WITH PALATAL HOOKÓG WITH PALATAL HOOKÓK WITH PALATAL HOOKÓL WITH PALATAL HOOKÓ",
  "M WITH PALATAL HOOKÓN WITH PALATAL HOOKÓP WITH PALATAL HOOKÓR WITH PALATAL HOOKÓS WITH PALATAL H",
  "OOKÓESH WITH PALATAL HOOKÓV WITH PALATAL HOOKÓX WITH PALATAL HOOKÓZ WITH PALATAL HOOKÓA WITH RET",
  "ROFLEX HOOKÔLPHA WITH RETROFLEX HOOKÓD WITH HOOK AND TAILÓE WITH RETROFLEX HOOKÓOPEN E WITH RETR",
  "OFLEX HOOKÓREVERSED OPEN E WITH RETROFLEX HOOKÓSCHWA WITH RETROFLEX HOOKÓI WITH RETROFLEX HOOKÓO",
  "PEN O WITH RETROFLEX HOOKÓESH WITH RETROFLEX HOOKÓU WITH RETROFLEX HOOKÓEZH WITH RETROFLEX HOOKÀ",
  "MODIFIER LETTER SMALL TURNED ALPHAÖC× WITH CURLÖETHÖREVERSED OPEN EÖFÖDOTLESS J WITH STROKEÖSCRI",
  "PT GÖTURNED HÖI WITH STROKE×OTAÖCAPITAL Iß WITH STROKEÖJ WITH CROSSED-TAILÖL WITH RETROFLEX HOOK",
  "ÝPALATAL HOOKÖCAPITAL LÖM WITH HOOKÖTURNED M WITH LONG LEGÖN WITH LEFT HOOKÝRETROFLEX HOOKÖCAPIT",
  "AL NÖBARRED OÖPHIÖS WITH HOOKÖESHÖT WITH PALATAL HOOKÖU BAR×PSILONÖCAPITAL UÖV WITH HOOKÖTURNED ",
  "VÖZ× WITH RETROFLEX HOOKÝCURLÖEZHÖTHETAÀCOMBINING DOTTED GRAVE ACCENTÑACUTE ACCENTÊSNAKE BELOWËU",
  "SPENSION MARKÊMACRON-ACUTEÊGRAVE-MACRONÊMACRON-GRAVEÊACUTE-MACRONÊGRAVE-ACUTE-GRAVEÊACUTE-GRAVE-",
  "ACUTEÊLATIN SMALL LETTER R BELOWÊBREVE-MACRONÊMACRON-BREVEÊDOUBLE CIRCUMFLEX ABOVEÊOGONEK ABOVEÊ",
  "ZIGZAG BELOWÊIS BELOWÊUR ABOVEËS ABOVEÊLATIN SMALL LETTER FLATTENED OPEN A ABOVEÝAEÞOÞVÝC CEDILL",
  "AÝINSULAR DÝETHÝGÐLETTER SMALL CAPITAL GÐSMALL LETTER KÝLÐLETTER SMALL CAPITAL LåMÐSMALL LETTER ",
  "NÐLETTER SMALL CAPITAL NåRÐSMALL LETTER R ROTUNDAÝSÝLONG SÝZÝALPHAÝBÞETAÝSCHWAÝFÝL WITH DOUBLE M",
  "IDDLE TILDEÝO WITH LIGHT CENTRALIZATION STROKEÝPÝESHÝU WITH LIGHT CENTRALIZATION STROKEÝWÝA WITH ",
  "DIAERESISÝO WITH DIAERESISÝU WITH DIAERESISÊUP TACK ABOVEÊKAVYKA ABOVE RIGHT×LEFTÊDOT ABOVE LEFT",
  "ÊWIDE INVERTED BRIDGE BELOWÊDOT BELOW LEFTËELETION MARKËOUBLE INVERTED BREVE BELOWÊALMOST EQUAL ",
  "TO BELOWÊLEFT ARROWHEAD ABOVEÊRIGHT ARROWHEAD AND DOWN ARROWHEAD BELOWÀLATIN CAPITAL LETTER A WI",
  "TH RING BELOWÆSMALL LETTER A WITH RING BELOWÆCAPITAL LETTER B WITH DOT ABOVEÆSMALL LETTER B WITH ",
  "DOT ABOVEÆCAPITAL LETTER B WITH DOT BELOWÆSMALL LETTER B WITH DOT BELOWÆCAPITAL LETTER B WITH LI",
  "NE BELOWÆSMALL LETTER B WITH LINE BELOWÆCAPITAL LETTER C WITH CEDILLA AND ACUTEÆSMALL LETTER C W",
  "ITH CEDILLA AND ACUTEÆCAPITAL LETTER D WITH DOT ABOVEÆSMALL LETTER D WITH DOT ABOVEÆCAPITAL LETT",
  "ER D WITH DOT BELOWÆSMALL LETTER D WITH DOT BELOWÆCAPITAL LETTER D WITH LINE BELOWÆSMALL LETTER ",
  "D WITH LINE BELOWÆCAPITAL LETTER D WITH CEDILLAÆSMALL LETTER D WITH CEDILLAÆCAPITAL LETTER D WIT",
  "H CIRCUMFLEX BELOWÆSMALL LETTER D WITH CIRCUMFLEX BELOWÆCAPITAL LETTER E WITH MACRON AND GRAVEÆS",
  "MALL LETTER E WITH MACRON AND GRAVEÆCAPITAL LETTER E WITH MACRON AND ACUTEÆSMALL LETTER E WITH M",
  "ACRON AND ACUTEÆCAPITAL LETTER E WITH CIRCUMFLEX BELOWÆSMALL LETTER E WITH CIRCUMFLEX BELOWÆCAPI",
  "TAL LETTER E WITH TILDE BELOWÆSMALL LETTER E WITH TILDE BELOWÆCAPITAL LETTER E WITH CEDILLA AND ",
  "BREVEÆSMALL LETTER E WITH CEDILLA AND BREVEÆCAPITAL LETTER F WITH DOT ABOVEÆSMALL LETTER F WITH ",
  "DOT ABOVEÆCAPITAL LETTER G WITH MACRONÆSMALL LETTER G WITH MACRONÆCAPITAL LETTER H WITH DOT ABOV",
  "EÆSMALL LETTER H WITH DOT ABOVEÆCAPITAL LETTER H WITH DOT BELOWÆSMALL LETTER H WITH DOT BELOWÆCA",
  "PITAL LETTER H WITH DIAERESISÆSMALL LETTER H WITH DIAERESISÆCAPITAL LETTER H WITH CEDILLAÆSMALL ",
  "LETTER H WITH CEDILLAÆCAPITAL LETTER H WITH BREVE BELOWÆSMALL LETTER H WITH BREVE BELOWÆCAPITAL ",
  "LETTER I WITH TILDE BELOWÆSMALL LETTER I WITH TILDE BELOWÆCAPITAL LETTER I WITH DIAERESIS AND AC",
  "UTEÆSMALL LETTER I WITH DIAERESIS AND ACUTEÆCAPITAL LETTER K WITH ACUTEÆSMALL LETTER K WITH ACUT",
  "EÆCAPITAL LETTER K WITH DOT BELOWÆSMALL LETTER K WITH DOT BELOWÆCAPITAL LETTER K WITH LINE BELOW",
  "ÆSMALL LETTER K WITH LINE BELOWÆCAPITAL LETTER L WITH DOT BELOWÆSMALL LETTER L WITH DOT BELOWÆCA",
  "PITAL LETTER L WITH DOT BELOW AND MACRONÆSMALL LETTER L WITH DOT BELOW AND MACRONÆCAPITAL LETTER ",
  "L WITH LINE BELOWÆSMALL LETTER L WITH LINE BELOWÆCAPITAL LETTER L WITH CIRCUMFLEX BELOWÆSMALL LE",
  "TTER L WITH CIRCUMFLEX BELOWÆCAPITAL LETTER M WITH ACUTEÆSMALL LETTER M WITH ACUTEÆCAPITAL LETTE",
  "R M WITH DOT ABOVEÆSMALL LETTER M WITH DOT ABOVEÆCAPITAL LETTER M WITH DOT BELOWÆSMALL LETTER M ",
  "WITH DOT BELOWÆCAPITAL LETTER N WITH DOT ABOVEÆSMALL LETTER N WITH DOT ABOVEÆCAPITAL LETTER N WI",
  "TH DOT BELOWÆSMALL LETTER N WITH DOT BELOWÆCAPITAL LETTER N WITH LINE BELOWÆSMALL LETTER N WITH ",
  "LINE BELOWÆCAPITAL LETTER N WITH CIRCUMFLEX BELOWÆSMALL LETTER N WITH CIRCUMFLEX BELOWÆCAPITAL L",
  "ETTER O WITH TILDE AND ACUTEÆSMALL LETTER O WITH TILDE AND ACUTEÆCAPITAL LETTER O WITH TILDE AND ",
  "DIAERESISÆSMALL LETTER O WITH TILDE AND DIAERESISÆCAPITAL LETTER O WITH MACRON AND GRAVEÆSMALL L",
  "ETTER O WITH MACRON AND GRAVEÆCAPITAL LETTER O WITH MACRON AND ACUTEÆSMALL LETTER O WITH MACRON ",
  "AND ACUTEÆCAPITAL LETTER P WITH ACUTEÆSMALL LETTER P WITH ACUTEÆCAPITAL LETTER P WITH DOT ABOVEÆ",
  "SMALL LETTER P WITH DOT ABOVEÆCAPITAL LETTER R WITH DOT ABOVEÆSMALL LETTER R WITH DOT ABOVEÆCAPI",
  "TAL LETTER R WITH DOT BELOWÆSMALL LETTER R WITH DOT BELOWÆCAPITAL LETTER R WITH DOT BELOW AND MA",
  "CRONÆSMALL LETTER R WITH DOT BELOW AND MACRONÆCAPITAL LETTER R WITH LINE BELOWÆSMALL LETTER R WI",
  "TH LINE BELOWÆCAPITAL LETTER S WITH DOT ABOVEÆSMALL LETTER S WITH DOT ABOVEÆCAPITAL LETTER S WIT",
  "H DOT BELOWÆSMALL LETTER S WITH DOT BELOWÆCAPITAL LETTER S WITH ACUTE AND DOT ABOVEÆSMALL LETTER ",
  "S WITH ACUTE AND DOT ABOVEÆCAPITAL LETTER S WITH CARON AND DOT ABOVEÆSMALL LETTER S WITH CARON A",
  "ND DOT ABOVEÆCAPITAL LETTER S WITH DOT BELOW AND DOT ABOVEÆSMALL LETTER S WITH DOT BELOW AND DOT ",
  "ABOVEÆCAPITAL LETTER T WITH DOT ABOVEÆSMALL LETTER T WITH DOT ABOVEÆCAPITAL LETTER T WITH DOT BE",
  "LOWÆSMALL LETTER T WITH DOT BELOWÆCAPITAL LETTER T WITH LINE BELOWÆSMALL LETTER T WITH LINE BELO",
  "WÆCAPITAL LETTER T WITH CIRCUMFLEX BELOWÆSMALL LETTER T WITH CIRCUMFLEX BELOWÆCAPITAL LETTER U W",
  "ITH DIAERESIS BELOWÆSMALL LETTER U WITH DIAERESIS BELOWÆCAPITAL LETTER U WITH TILDE BELOWÆSMALL ",
  "LETTER U WITH TILDE BELOWÆCAPITAL LETTER U WITH CIRCUMFLEX BELOWÆSMALL LETTER U WITH CIRCUMFLEX ",
  "BELOWÆCAPITAL LETTER U WITH TILDE AND ACUTEÆSMALL LETTER U WITH TILDE AND ACUTEÆCAPITAL LETTER U ",
  "WITH MACRON AND DIAERESISÆSMALL LETTER U WITH MACRON AND DIAERESISÆCAPITAL LETTER V WITH TILDEÆS",
  "MALL LETTER V WITH TILDEÆCAPITAL LETTER V WITH DOT BELOWÆSMALL LETTER V WITH DOT BELOWÆCAPITAL L",
  "ETTER W WITH GRAVEÆSMALL LETTER W WITH GRAVEÆCAPITAL LETTER W WITH ACUTEÆSMALL LETTER W WITH ACU",
  "TEÆCAPITAL LETTER W WITH DIAERESISÆSMALL LETTER W WITH DIAERESISÆCAPITAL LETTER W WITH DOT ABOVE",
  "ÆSMALL LETTER W WITH DOT ABOVEÆCAPITAL LETTER W WITH DOT BELOWÆSMALL LETTER W WITH DOT BELOWÆCAP",
  "ITAL LETTER X WITH DOT ABOVEÆSMALL LETTER X WITH DOT ABOVEÆCAPITAL LETTER X WITH DIAERESISÆSMALL ",
  "LETTER X WITH DIAERESISÆCAPITAL LETTER Y WITH DOT ABOVEÆSMALL LETTER Y WITH DOT ABOVEÆCAPITAL LE",
  "TTER Z WITH CIRCUMFLEXÆSMALL LETTER Z WITH CIRCUMFLEXÆCAPITAL LETTER Z WITH DOT BELOWÆSMALL LETT",
  "ER Z WITH DOT BELOWÆCAPITAL LETTER Z WITH LINE BELOWÆSMALL LETTER Z WITH LINE BELOWÓH WITH LINE ",
  "BELOWÓT WITH DIAERESISÓW WITH RING ABOVEÓY WITH RING ABOVEÓA WITH RIGHT HALF RINGÓLONG S WITH DO",
  "T ABOVEàIAGONAL STROKEßHIGH STROKEÆCAPITAL LETTER SHARP SÆSMALL LETTER DELTAÆCAPITAL LETTER A WI",
  "TH DOT BELOWÆSMALL LETTER A WITH DOT BELOWÆCAPITAL LETTER A WITH HOOK ABOVEÆSMALL LETTER A WITH ",
  "HOOK ABOVEÆCAPITAL LETTER A WITH CIRCUMFLEX AND ACUTEÆSMALL LETTER A WITH CIRCUMFLEX AND ACUTEÆC",
  "APITAL LETTER A WITH CIRCUMFLEX AND GRAVEÆSMALL LETTER A WITH CIRCUMFLEX AND GRAVEÆCAPITAL LETTE",
  "R A WITH CIRCUMFLEX AND HOOK ABOVEÆSMALL LETTER A WITH CIRCUMFLEX AND HOOK ABOVEÆCAPITAL LETTER ",
  "A WITH CIRCUMFLEX AND TILDEÆSMALL LETTER A WITH CIRCUMFLEX AND TILDEÆCAPITAL LETTER A WITH CIRCU",
  "MFLEX AND DOT BELOWÆSMALL LETTER A WITH CIRCUMFLEX AND DOT BELOWÆCAPITAL LETTER A WITH BREVE AND ",
  "ACUTEÆSMALL LETTER A WITH BREVE AND ACUTEÆCAPITAL LETTER A WITH BREVE AND GRAVEÆSMALL LETTER A W",
  "ITH BREVE AND GRAVEÆCAPITAL LETTER A WITH BREVE AND HOOK ABOVEÆSMALL LETTER A WITH BREVE AND HOO",
  "K ABOVEÆCAPITAL LETTER A WITH BREVE AND TILDEÆSMALL LETTER A WITH BREVE AND TILDEÆCAPITAL LETTER ",
  "A WITH BREVE AND DOT BELOWÆSMALL LETTER A WITH BREVE AND DOT BELOWÆCAPITAL LETTER E WITH DOT BEL",
  "OWÆSMALL LETTER E WITH DOT BELOWÆCAPITAL LETTER E WITH HOOK ABOVEÆSMALL LETTER E WITH HOOK ABOVE",
  "ÆCAPITAL LETTER E WITH TILDEÆSMALL LETTER E WITH TILDEÆCAPITAL LETTER E WITH CIRCUMFLEX AND ACUT",
  "EÆSMALL LETTER E WITH CIRCUMFLEX AND ACUTEÆCAPITAL LETTER E WITH CIRCUMFLEX AND GRAVEÆSMALL LETT",
  "ER E WITH CIRCUMFLEX AND GRAVEÆCAPITAL LETTER E WITH CIRCUMFLEX AND HOOK ABOVEÆSMALL LETTER E WI",
  "TH CIRCUMFLEX AND HOOK ABOVEÆCAPITAL LETTER E WITH CIRCUMFLEX AND TILDEÆSMALL LETTER E WITH CIRC",
  "UMFLEX AND TILDEÆCAPITAL LETTER E WITH CIRCUMFLEX AND DOT BELOWÆSMALL LETTER E WITH CIRCUMFLEX A",
  "ND DOT BELOWÆCAPITAL LETTER I WITH HOOK ABOVEÆSMALL LETTER I WITH HOOK ABOVEÆCAPITAL LETTER I WI",
  "TH DOT BELOWÆSMALL LETTER I WITH DOT BELOWÆCAPITAL LETTER O WITH DOT BELOWÆSMALL LETTER O WITH D",
  "OT BELOWÆCAPITAL LETTER O WITH HOOK ABOVEÆSMALL LETTER O WITH HOOK ABOVEÆCAPITAL LETTER O WITH C",
  "IRCUMFLEX AND ACUTEÆSMALL LETTER O WITH CIRCUMFLEX AND ACUTEÆCAPITAL LETTER O WITH CIRCUMFLEX AN",
  "D GRAVEÆSMALL LETTER O WITH CIRCUMFLEX AND GRAVEÆCAPITAL LETTER O WITH CIRCUMFLEX AND HOOK ABOVE",
  "ÆSMALL LETTER O WITH CIRCUMFLEX AND HOOK ABOVEÆCAPITAL LETTER O WITH CIRCUMFLEX AND TILDEÆSMALL ",
  "LETTER O WITH CIRCUMFLEX AND TILDEÆCAPITAL LETTER O WITH CIRCUMFLEX AND DOT BELOWÆSMALL LETTER O ",
  "WITH CIRCUMFLEX AND DOT BELOWÆCAPITAL LETTER O WITH HORN AND ACUTEÆSMALL LETTER O WITH HORN AND ",
  "ACUTEÆCAPITAL LETTER O WITH HORN AND GRAVEÆSMALL LETTER O WITH HORN AND GRAVEÆCAPITAL LETTER O W",
  "ITH HORN AND HOOK ABOVEÆSMALL LETTER O WITH HORN AND HOOK ABOVEÆCAPITAL LETTER O WITH HORN AND T",
  "ILDEÆSMALL LETTER O WITH HORN AND TILDEÆCAPITAL LETTER O WITH HORN AND DOT BELOWÆSMALL LETTER O ",
  "WITH HORN AND DOT BELOWÆCAPITAL LETTER U WITH DOT BELOWÆSMALL LETTER U WITH DOT BELOWÆCAPITAL LE",
  "TTER U WITH HOOK ABOVEÆSMALL LETTER U WITH HOOK ABOVEÆCAPITAL LETTER U WITH HORN AND ACUTEÆSMALL ",
  "LETTER U WITH HORN AND ACUTEÆCAPITAL LETTER U WITH HORN AND GRAVEÆSMALL LETTER U WITH HORN AND G",
  "RAVEÆCAPITAL LETTER U WITH HORN AND HOOK ABOVEÆSMALL LETTER U WITH HORN AND HOOK ABOVEÆCAPITAL L",
  "ETTER U WITH HORN AND TILDEÆSMALL LETTER U WITH HORN AND TILDEÆCAPITAL LETTER U WITH HORN AND DO",
  "T BELOWÆSMALL LETTER U WITH HORN AND DOT BELOWÆCAPITAL LETTER Y WITH GRAVEÆSMALL LETTER Y WITH G",
  "RAVEÆCAPITAL LETTER Y WITH DOT BELOWÆSMALL LETTER Y WITH DOT BELOWÆCAPITAL LETTER Y WITH HOOK AB",
  "OVEÆSMALL LETTER Y WITH HOOK ABOVEÆCAPITAL LETTER Y WITH TILDEÆSMALL LETTER Y WITH TILDEÆCAPITAL ",
  "LETTER MIDDLE-WELSH LLÆSMALL LETTER MIDDLE-WELSH LLÆCAPITAL LETTER MIDDLE-WELSH VÆSMALL LETTER M",
  "IDDLE-WELSH VÆCAPITAL LETTER Y WITH LOOPÆSMALL LETTER Y WITH LOOPÀGREEK SMALL LETTER ALPHA WITH ",
  "PSILIÞDASIAÞPSILI AND VARIAÞDASIA AND VARIAÞPSILI AND OXIAÞDASIA AND OXIAÞPSILI AND PERISPOMENIÞ",
  "DASIA AND PERISPOMENIÆCAPITAL LETTER ALPHA WITH PSILIàDASIAàPSILI AND VARIAàDASIA AND VARIAàPSIL",
  "I AND OXIAàDASIA AND OXIAàPSILI AND PERISPOMENIàDASIA AND PERISPOMENIÆSMALL LETTER EPSILON WITH ",
  "PSILIàDASIAàPSILI AND VARIAàDASIA AND VARIAàPSILI AND OXIAàDASIA AND OXIA#1F18ÆCAPITAL LETTER EP",
  "SILON WITH PSILIâDASIAâPSILI AND VARIAâDASIA AND VARIAâPSILI AND OXIAâDASIA AND OXIA#1F20ÆSMALL ",
  "LETTER ETA WITH PSILIÜDASIAÜPSILI AND VARIAÜDASIA AND VARIAÜPSILI AND OXIAÜDASIA AND OXIAÜPSILI ",
  "AND PERISPOMENIÜDASIA AND PERISPOMENIÆCAPITAL LETTER ETA WITH PSILIÞDASIAÞPSILI AND VARIAÞDASIA ",
  "AND VARIAÞPSILI AND OXIAÞDASIA AND OXIAÞPSILI AND PERISPOMENIÞDASIA AND PERISPOMENIÆSMALL LETTER ",
  "IOTA WITH PSILIÝDASIAÝPSILI AND VARIAÝDASIA AND VARIAÝPSILI AND OXIAÝDASIA AND OXIAÝPSILI AND PE",
  "RISPOMENIÝDASIA AND PERISPOMENIÆCAPITAL LETTER IOTA WITH PSILIßDASIAßPSILI AND VARIAßDASIA AND V",
  "ARIAßPSILI AND OXIAßDASIA AND OXIAßPSILI AND PERISPOMENIßDASIA AND PERISPOMENIÆSMALL LETTER OMIC",
  "RON WITH PSILIàDASIAàPSILI AND VARIAàDASIA AND VARIAàPSILI AND OXIAàDASIA AND OXIA#1F48ÆCAPITAL ",
  "LETTER OMICRON WITH PSILIâDASIAâPSILI AND VARIAâDASIA AND VARIAâPSILI AND OXIAâDASIA AND OXIA#1F",
  "50ÆSMALL LETTER UPSILON WITH PSILIàDASIAàPSILI AND VARIAàDASIA AND VARIAàPSILI AND OXIAàDASIA AN",
  "D OXIAàPSILI AND PERISPOMENIàDASIA AND PERISPOMENI#1F59ÆCAPITAL LETTER UPSILON WITH DASIA#1F5Bç ",
  "AND VARIA#1F5DìOXIA#1F5FìPERISPOMENIÆSMALL LETTER OMEGA WITH PSILIÞDASIAÞPSILI AND VARIAÞDASIA A",
  "ND VARIAÞPSILI AND OXIAÞDASIA AND OXIAÞPSILI AND PERISPOMENIÞDASIA AND PERISPOMENIÆCAPITAL LETTE",
  "R OMEGA WITH PSILIàDASIAàPSILI AND VARIAàDASIA AND VARIAàPSILI AND OXIAàDASIA AND OXIAàPSILI AND ",
  "PERISPOMENIàDASIA AND PERISPOMENIÆSMALL LETTER ALPHA WITH VARIAÞOXIAÓEPSILON WITH VARIAàOXIAÔTA ",
  "WITH VARIAÜOXIAÓIOTA WITH VARIAÝOXIAÓOMICRON WITH VARIAàOXIAÓUPSILON WITH VARIAàOXIAÓOMEGA WITH ",
  "VARIAÞOXIA#1F80ÓALPHA WITH PSILI AND YPOGEGRAMMENIÞDASIA AND YPOGEGRAMMENIÞPSILI AND VARIA AND Y",
  "POGEGRAMMENIÞDASIA AND VARIA AND YPOGEGRAMMENIÞPSILI AND OXIA AND YPOGEGRAMMENIÞDASIA AND OXIA A",
  "ND YPOGEGRAMMENIÞPSILI AND PERISPOMENI AND YPOGEGRAMMENIÞDASIA AND PERISPOMENI AND YPOGEGRAMMENI",
  "ÆCAPITAL LETTER ALPHA WITH PSILI AND PROSGEGRAMMENIàDASIA AND PROSGEGRAMMENIàPSILI AND VARIA AND ",
  "PROSGEGRAMMENIàDASIA AND VARIA AND PROSGEGRAMMENIàPSILI AND OXIA AND PROSGEGRAMMENIàDASIA AND OX",
  "IA AND PROSGEGRAMMENIàPSILI AND PERISPOMENI AND PROSGEGRAMMENIàDASIA AND PERISPOMENI AND PROSGEG",
  "RAMMENIÆSMALL LETTER ETA WITH PSILI AND YPOGEGRAMMENIÜDASIA AND YPOGEGRAMMENIÜPSILI AND VARIA AN",
  "D YPOGEGRAMMENIÜDASIA AND VARIA AND YPOGEGRAMMENIÜPSILI AND OXIA AND YPOGEGRAMMENIÜDASIA AND OXI",
  "A AND YPOGEGRAMMENIÜPSILI AND PERISPOMENI AND YPOGEGRAMMENIÜDASIA AND PERISPOMENI AND YPOGEGRAMM",
  "ENIÆCAPITAL LETTER ETA WITH PSILI AND PROSGEGRAMMENIÞDASIA AND PROSGEGRAMMENIÞPSILI AND VARIA AN",
  "D PROSGEGRAMMENIÞDASIA AND VARIA AND PROSGEGRAMMENIÞPSILI AND OXIA AND PROSGEGRAMMENIÞDASIA AND ",
  "OXIA AND PROSGEGRAMMENIÞPSILI AND PERISPOMENI AND PROSGEGRAMMENIÞDASIA AND PERISPOMENI AND PROSG",
  "EGRAMMENIÆSMALL LETTER OMEGA WITH PSILI AND YPOGEGRAMMENIÞDASIA AND YPOGEGRAMMENIÞPSILI AND VARI",
  "A AND YPOGEGRAMMENIÞDASIA AND VARIA AND YPOGEGRAMMENIÞPSILI AND OXIA AND YPOGEGRAMMENIÞDASIA AND ",
  "OXIA AND YPOGEGRAMMENIÞPSILI AND PERISPOMENI AND YPOGEGRAMMENIÞDASIA AND PERISPOMENI AND YPOGEGR",
  "AMMENIÆCAPITAL LETTER OMEGA WITH PSILI AND PROSGEGRAMMENIàDASIA AND PROSGEGRAMMENIàPSILI AND VAR",
  "IA AND PROSGEGRAMMENIàDASIA AND VARIA AND PROSGEGRAMMENIàPSILI AND OXIA AND PROSGEGRAMMENIàDASIA ",
  "AND OXIA AND PROSGEGRAMMENIàPSILI AND PERISPOMENI AND PROSGEGRAMMENIàDASIA AND PERISPOMENI AND P",
  "ROSGEGRAMMENIÆSMALL LETTER ALPHA WITH VRACHYÞMACRONÞVARIA AND YPOGEGRAMMENIÞYPOGEGRAMMENIÞOXIA A",
  "ND YPOGEGRAMMENI#1FB6ÞPERISPOMENIé AND YPOGEGRAMMENIÆCAPITAL LETTER ALPHA WITH VRACHYàMACRONàVAR",
  "IAàOXIAàPROSGEGRAMMENIÆKORONISÆPROSGEGRAMMENIÇSILIÇERISPOMENIÆDIALYTIKA AND PERISPOMENIÆSMALL LE",
  "TTER ETA WITH VARIA AND YPOGEGRAMMENIÜYPOGEGRAMMENIÜOXIA AND YPOGEGRAMMENI#1FC6ÜPERISPOMENIç AND ",
  "YPOGEGRAMMENIÆCAPITAL LETTER EPSILON WITH VARIAâOXIAÖTA WITH VARIAÞOXIAÞPROSGEGRAMMENIÆPSILI AND ",
  "VARIAÐOXIAÐPERISPOMENIÆSMALL LETTER IOTA WITH VRACHYÝMACRONÝDIALYTIKA AND VARIAëOXIA#1FD6ÝPERISP",
  "OMENIÝDIALYTIKA AND PERISPOMENIÆCAPITAL LETTER IOTA WITH VRACHYßMACRONßVARIAßOXIA#1FDDÆDASIA AND ",
  "VARIAÐOXIAÐPERISPOMENIÆSMALL LETTER UPSILON WITH VRACHYàMACRONàDIALYTIKA AND VARIAîOXIAÓRHO WITH ",
  "PSILIÜDASIAÓUPSILON WITH PERISPOMENIàDIALYTIKA AND PERISPOMENIÆCAPITAL LETTER UPSILON WITH VRACH",
  "YâMACRONâVARIAâOXIAÕRHO WITH DASIAÆDIALYTIKA AND VARIAÔOXIAÆVARIA#1FF2ÆSMALL LETTER OMEGA WITH V",
  "ARIA AND YPOGEGRAMMENIÞYPOGEGRAMMENIÞOXIA AND YPOGEGRAMMENI#1FF6ÞPERISPOMENIé AND YPOGEGRAMMENIÆ",
  "CAPITAL LETTER OMICRON WITH VARIAâOXIA×EGA WITH VARIAàOXIAàPROSGEGRAMMENIÆOXIAÆDASIA#2000ÀEN QUA",
  "DÁM QUADÁN SPACEÁM SPACEÀTHREE-PER-EM SPACEÀFOUR-PER-EM SPACEÀSIX-PER-EM SPACEÀFIGURE SPACEÀPUNC",
  "TUATION SPACEÀTHIN SPACEÀHAIR SPACEÀZERO WIDTH SPACEËNON-JOINERËJOINERÀLEFT-TO-RIGHT MARKÀRIGHT-",
  "TO-LEFT MARKÀHYPHENÀNON-BREAKING HYPHENÀFIGURE DASHÀEN DASHÁM DASHÀHORIZONTAL BARÀDOUBLE VERTICA",
  "L LINEÇLOW LINEÀLEFT SINGLE QUOTATION MARKÀRIGHT SINGLE QUOTATION MARKÀSINGLE LOW-9 QUOTATION MA",
  "RKÇHIGH-REVERSED-9 QUOTATION MARKÀLEFT DOUBLE QUOTATION MARKÀRIGHT DOUBLE QUOTATION MARKÀDOUBLE ",
  "LOW-9 QUOTATION MARKÇHIGH-REVERSED-9 QUOTATION MARKÁAGGERÁOUBLE DAGGERÀBULLETÀTRIANGULAR BULLETÀ",
  "ONE DOT LEADERÀTWO DOT LEADERÀHORIZONTAL ELLIPSISÁYPHENATION POINTÀLINE SEPARATORÀPARAGRAPH SEPA",
  "RATORÀLEFT-TO-RIGHT EMBEDDINGÀRIGHT-TO-LEFT EMBEDDINGÀPOP DIRECTIONAL FORMATTINGÀLEFT-TO-RIGHT O",
  "VERRIDEÀRIGHT-TO-LEFT OVERRIDEÀNARROW NO-BREAK SPACEÀPER MILLE SIGNÄTEN THOUSAND SIGNÁRIMEÀDOUBL",
  "E PRIMEÀTRIPLE PRIMEÀREVERSED PRIMEÉDOUBLE PRIMEÉTRIPLE PRIMEÀCARETÀSINGLE LEFT-POINTING ANGLE Q",
  "UOTATION MARKÇRIGHT-POINTING ANGLE QUOTATION MARKÀREFERENCE MARKÀDOUBLE EXCLAMATION MARKÀINTERRO",
  "BANGÀOVERLINEÀUNDERTIEÀCHARACTER TIEÁARET INSERTION POINTÀASTERISMÀHYPHEN BULLETÀFRACTION SLASHÀ",
  "LEFT SQUARE BRACKET WITH QUILLÀRIGHT SQUARE BRACKET WITH QUILLÀDOUBLE QUESTION MARKÀQUESTION EXC",
  "LAMATION MARKÀEXCLAMATION QUESTION MARKÀTIRONIAN SIGN ETÀREVERSED PILCROW SIGNÀBLACK LEFTWARDS B",
  "ULLETÆRIGHTWARDS BULLETÀLOW ASTERISKÀREVERSED SEMICOLONÀCLOSE UPÀTWO ASTERISKS ALIGNED VERTICALL",
  "YÀCOMMERCIAL MINUS SIGNÀSWUNG DASHÀINVERTED UNDERTIEÀFLOWER PUNCTUATION MARKÀTHREE DOT PUNCTUATI",
  "ONÀQUADRUPLE PRIMEÀFOUR DOT PUNCTUATIONÁIVE DOT PUNCTUATIONÀTWO DOT PUNCTUATIONÀFOUR DOT MARKÀDO",
  "TTED CROSSÀTRICOLONÀVERTICAL FOUR DOTSÀMEDIUM MATHEMATICAL SPACEÀWORD JOINERÀFUNCTION APPLICATIO",
  "NÀINVISIBLE TIMESÊSEPARATORÊPLUS#2066ÀLEFT-TO-RIGHT ISOLATEÀRIGHT-TO-LEFT ISOLATEÀFIRST STRONG I",
  "SOLATEÀPOP DIRECTIONAL ISOLATEÀINHIBIT SYMMETRIC SWAPPINGÀACTIVATE SYMMETRIC SWAPPINGÀINHIBIT AR",
  "ABIC FORM SHAPINGÀACTIVATE ARABIC FORM SHAPINGÀNATIONAL DIGIT SHAPESÁOMINAL DIGIT SHAPESÀSUPERSC",
  "RIPT ZEROÌLATIN SMALL LETTER I#2074ÌFOURÍIVEÌSIXÍEVENÌEIGHTÌNINEÌPLUS SIGNÌMINUSÌEQUALS SIGNÌLEF",
  "T PARENTHESISÌRIGHT PARENTHESISÌLATIN SMALL LETTER NÂBSCRIPT ZEROÊONEÊTWOËHREEÊFOURËIVEÊSIXËEVEN",
  "ÊEIGHTÊNINEÊPLUS SIGNÊMINUSÊEQUALS SIGNÊLEFT PARENTHESISÊRIGHT PARENTHESIS#2090ÀLATIN SUBSCRIPT ",
  "SMALL LETTER AÝEÝOÝXÝSCHWAÝHÝKÝLÝMÝNÝPÝSÝT#20A0ÀEURO-CURRENCY SIGNÀCOLON SIGNÁRUZEIRO SIGNÀFRENC",
  "H FRANC SIGNÀLIRA SIGNÀMILL SIGNÀNAIRA SIGNÀPESETA SIGNÀRUPEE SIGNÀWON SIGNÀNEW SHEQEL SIGNÀDONG ",
  "SIGNÀEURO SIGNÀKIP SIGNÀTUGRIK SIGNÀDRACHMA SIGNÀGERMAN PENNY SIGNÀPESO SIGNÀGUARANI SIGNÀAUSTRA",
  "L SIGNÀHRYVNIA SIGNÀCEDI SIGNÀLIVRE TOURNOIS SIGNÀSPESMILO SIGNÀTENGE SIGNÀINDIAN RUPEE SIGNÀTUR",
  "KISH LIRA SIGNÀNORDIC MARK SIGNÀMANAT SIGNÀRUBLE SIGNÀLARI SIGNÀBITCOIN SIGNÀSOM SIGN#20D0ÀCOMBI",
  "NING LEFT HARPOON ABOVEÊRIGHT HARPOON ABOVEÊLONG VERTICAL LINE OVERLAYÊSHORT VERTICAL LINE OVERL",
  "AYÊANTICLOCKWISE ARROW ABOVEÊCLOCKWISE ARROW ABOVEÊLEFT ARROW ABOVEÊRIGHT ARROW ABOVEÌNG OVERLAY",
  "ÊCLOCKWISE RING OVERLAYÊANTICLOCKWISE RING OVERLAYÊTHREE DOTS ABOVEÊFOUR DOTS ABOVEÊENCLOSING CI",
  "RCLEÔSQUAREÔDIAMONDÔCIRCLE BACKSLASHÊLEFT RIGHT ARROW ABOVEÊENCLOSING SCREENÔKEYCAPÔUPWARD POINT",
  "ING TRIANGLEÊREVERSE SOLIDUS OVERLAYÊDOUBLE VERTICAL STROKE OVERLAYÊANNUITY SYMBOLÊTRIPLE UNDERD",
  "OTÊWIDE BRIDGE ABOVEÊLEFTWARDS ARROW OVERLAYËONG DOUBLE SOLIDUS OVERLAYÊRIGHTWARDS HARPOON WITH ",
  "BARB DOWNWARDSÊLEFTWARDS HARPOON WITH BARB DOWNWARDSÎ ARROW BELOWÊRIGHT ARROW BELOWÊASTERISK ABO",
  "VE#2100ÀACCOUNT OFÁDDRESSED TO THE SUBJECTÀDOUBLE-STRUCK CAPITAL CÁEGREE CELSIUSÀCENTRE LINE SYM",
  "BOLÁARE OFÂDA UNAÀEULER CONSTANTÀSCRUPLEÀDEGREE FAHRENHEITÀSCRIPT SMALL GÇCAPITAL HÀBLACK-LETTER ",
  "CAPITAL HÀDOUBLE-STRUCK CAPITAL HÀPLANCK CONSTANTÏ OVER TWO PIÀSCRIPT CAPITAL IÀBLACK-LETTER CAP",
  "ITAL IÀSCRIPT CAPITAL LÇSMALL LÀL B BAR SYMBOLÀDOUBLE-STRUCK CAPITAL NÀNUMERO SIGNÀSOUND RECORDI",
  "NG COPYRIGHTÁCRIPT CAPITAL PÀDOUBLE-STRUCK CAPITAL PÖQÀSCRIPT CAPITAL RÀBLACK-LETTER CAPITAL RÀD",
  "OUBLE-STRUCK CAPITAL RÀPRESCRIPTION TAKEÀRESPONSEÀSERVICE MARKÀTELEPHONE SIGNÁRADE MARK SIGNÀVER",
  "SICLEÀDOUBLE-STRUCK CAPITAL ZÀOUNCE SIGNÁHM SIGNÀINVERTED OHM SIGNÀBLACK-LETTER CAPITAL ZÀTURNED ",
  "GREEK SMALL LETTER IOTAÀKELVIN SIGNÀANGSTROM SIGNÀSCRIPT CAPITAL BÀBLACK-LETTER CAPITAL CÀESTIMA",
  "TED SYMBOLÀSCRIPT SMALL EÇCAPITAL EÏFÀTURNED CAPITAL FÀSCRIPT CAPITAL MÇSMALL OÀALEF SYMBOLÀBET ",
  "SYMBOLÀGIMEL SYMBOLÀDALET SYMBOLÀINFORMATION SOURCEÀROTATED CAPITAL QÀFACSIMILE SIGNÀDOUBLE-STRU",
  "CK SMALL PIÔGAMMAÎCAPITAL GAMMAÖPIÎN-ARY SUMMATIONÀTURNED SANS-SERIF CAPITAL GÚLÀREVERSED SANS-S",
  "ERIF CAPITAL LÀTURNED SANS-SERIF CAPITAL YÀDOUBLE-STRUCK ITALIC CAPITAL DÕSMALL DÛEÛIÛJÀPROPERTY ",
  "LINEÀTURNED AMPERSANDÀPER SIGNÀAKTIESELSKABÀTURNED SMALL FÀSYMBOL FOR SAMARITAN SOURCEÀVULGAR FR",
  "ACTION ONE SEVENTHÔNINTHÔTENTHÕHIRDÐTWO THIRDSÐONE FIFTHÐTWO FIFTHSÑHREE FIFTHSÐFOUR FIFTHSÐONE ",
  "SIXTHÐFIVE SIXTHSÐONE EIGHTHÐTHREE EIGHTHSÐFIVE EIGHTHSÐSEVEN EIGHTHSÀFRACTION NUMERATOR ONEÀROM",
  "AN NUMERAL ONEÎTWOÏHREEÎFOURÏIVEÎSIXÏEVENÎEIGHTÎNINEÎTENÎELEVENÎTWELVEÎFIFTYÎONE HUNDREDÎFIVE HU",
  "NDREDÎONE THOUSANDÀSMALL ROMAN NUMERAL ONEÔTWOÕHREEÔFOURÕIVEÔSIXÕEVENÔEIGHTÔNINEÔTENÔELEVENÔTWEL",
  "VEÔFIFTYÔONE HUNDREDÔFIVE HUNDREDÔONE THOUSANDÀROMAN NUMERAL ONE THOUSAND C DÎFIVE THOUSANDÎTEN ",
  "THOUSANDÎREVERSED ONE HUNDREDÀLATIN SMALL LETTER REVERSED CÀROMAN NUMERAL SIX LATE FORMÎFIFTY EA",
  "RLY FORMÔTHOUSANDÎONE HUNDRED THOUSANDÀVULGAR FRACTION ZERO THIRDSÀTURNED DIGIT TWOÎHREE#2190ÀLE",
  "FTWARDS ARROWÀUPWARDS ARROWÀRIGHTWARDS ARROWÀDOWNWARDS ARROWÀLEFT RIGHT ARROWÀUP DOWN ARROWÀNORT",
  "H WEST ARROWÆEAST ARROWÀSOUTH EAST ARROWÆWEST ARROWÀLEFTWARDS ARROW WITH STROKEÀRIGHTWARDS ARROW ",
  "WITH STROKEÀLEFTWARDS WAVE ARROWÀRIGHTWARDS WAVE ARROWÀLEFTWARDS TWO HEADED ARROWÀUPWARDS TWO HE",
  "ADED ARROWÀRIGHTWARDS TWO HEADED ARROWÀDOWNWARDS TWO HEADED ARROWÀLEFTWARDS ARROW WITH TAILÀRIGH",
  "TWARDS ARROW WITH TAILÀLEFTWARDS ARROW FROM BARÀUPWARDS ARROW FROM BARÀRIGHTWARDS ARROW FROM BAR",
  "ÀDOWNWARDS ARROW FROM BARÀUP DOWN ARROW WITH BASEÀLEFTWARDS ARROW WITH HOOKÀRIGHTWARDS ARROW WIT",
  "H HOOKÀLEFTWARDS ARROW WITH LOOPÀRIGHTWARDS ARROW WITH LOOPÀLEFT RIGHT WAVE ARROWËARROW WITH STR",
  "OKEÀDOWNWARDS ZIGZAG ARROWÀUPWARDS ARROW WITH TIP LEFTWARDS×RIGHTWARDSÀDOWNWARDS ARROW WITH TIP ",
  "LEFTWARDSÙRIGHTWARDSÀRIGHTWARDS ARROW WITH CORNER DOWNWARDSÀDOWNWARDS ARROW WITH CORNER LEFTWARD",
  "SÀANTICLOCKWISE TOP SEMICIRCLE ARROWÀCLOCKWISE TOP SEMICIRCLE ARROWÀNORTH WEST ARROW TO LONG BAR",
  "ÀLEFTWARDS ARROW TO BAR OVER RIGHTWARDS ARROW TO BARÀANTICLOCKWISE OPEN CIRCLE ARROWÀCLOCKWISE O",
  "PEN CIRCLE ARROWÀLEFTWARDS HARPOON WITH BARB UPWARDSÜDOWNWARDSÀUPWARDS HARPOON WITH BARB RIGHTWA",
  "RDSÚLEFTWARDSÀRIGHTWARDS HARPOON WITH BARB UPWARDSÝDOWNWARDSÀDOWNWARDS HARPOON WITH BARB RIGHTWA",
  "RDSÜLEFTWARDSÀRIGHTWARDS ARROW OVER LEFTWARDS ARROWÀUPWARDS ARROW LEFTWARDS OF DOWNWARDS ARROWÀL",
  "EFTWARDS ARROW OVER RIGHTWARDS ARROWÊPAIRED ARROWSÀUPWARDS PAIRED ARROWSÀRIGHTWARDS PAIRED ARROW",
  "SÀDOWNWARDS PAIRED ARROWSÀLEFTWARDS HARPOON OVER RIGHTWARDS HARPOONÀRIGHTWARDS HARPOON OVER LEFT",
  "WARDS HARPOONÀLEFTWARDS DOUBLE ARROW WITH STROKEÄ RIGHT DOUBLE ARROW WITH STROKEÀRIGHTWARDS DOUB",
  "LE ARROW WITH STROKEÀLEFTWARDS DOUBLE ARROWÀUPWARDS DOUBLE ARROWÀRIGHTWARDS DOUBLE ARROWÀDOWNWAR",
  "DS DOUBLE ARROWÀLEFT RIGHT DOUBLE ARROWÀUP DOWN DOUBLE ARROWÀNORTH WEST DOUBLE ARROWÆEAST DOUBLE ",
  "ARROWÀSOUTH EAST DOUBLE ARROWÆWEST DOUBLE ARROWÀLEFTWARDS TRIPLE ARROWÀRIGHTWARDS TRIPLE ARROWÀL",
  "EFTWARDS SQUIGGLE ARROWÀRIGHTWARDS SQUIGGLE ARROWÀUPWARDS ARROW WITH DOUBLE STROKEÀDOWNWARDS ARR",
  "OW WITH DOUBLE STROKEÀLEFTWARDS DASHED ARROWÀUPWARDS DASHED ARROWÀRIGHTWARDS DASHED ARROWÀDOWNWA",
  "RDS DASHED ARROWÀLEFTWARDS ARROW TO BARÀRIGHTWARDS ARROW TO BARÀLEFTWARDS WHITE ARROWÀUPWARDS WH",
  "ITE ARROWÀRIGHTWARDS WHITE ARROWÀDOWNWARDS WHITE ARROWÀUPWARDS WHITE ARROW FROM BARÔON PEDESTALß ",
  "WITH HORIZONTAL BARåVERTICAL BARÎDOUBLE ARROWÚ ON PEDESTALÀRIGHTWARDS WHITE ARROW FROM WALLÀNORT",
  "H WEST ARROW TO CORNERÀSOUTH EAST ARROW TO CORNERÀUP DOWN WHITE ARROWÀRIGHT ARROW WITH SMALL CIR",
  "CLEÀDOWNWARDS ARROW LEFTWARDS OF UPWARDS ARROWÀTHREE RIGHTWARDS ARROWSÀLEFTWARDS ARROW WITH VERT",
  "ICAL STROKEÀRIGHTWARDS ARROW WITH VERTICAL STROKEÀLEFT RIGHT ARROW WITH VERTICAL STROKEÄWARDS AR",
  "ROW WITH DOUBLE VERTICAL STROKEÀRIGHTWARDS ARROW WITH DOUBLE VERTICAL STROKEÀLEFT RIGHT ARROW WI",
  "TH DOUBLE VERTICAL STROKEÄWARDS OPEN-HEADED ARROWÀRIGHTWARDS OPEN-HEADED ARROWÀLEFT RIGHT OPEN-H",
  "EADED ARROWÀFOR ALLÀCOMPLEMENTÀPARTIAL DIFFERENTIALÀTHERE EXISTSÆDOES NOT EXISTÀEMPTY SETÀINCREM",
  "ENTÀNABLAÀELEMENT OFÀNOT AN ELEMENT OFÀSMALL ELEMENT OFÀCONTAINS AS MEMBERÀDOES NOT CONTAIN AS M",
  "EMBERÀSMALL CONTAINS AS MEMBERÀEND OF PROOFÀN-ARY PRODUCTÆCOPRODUCTÆSUMMATIONÀMINUS SIGNÅ-OR-PLU",
  "S SIGNÀDOT PLUSÁIVISION SLASHÀSET MINUSÀASTERISK OPERATORÀRING OPERATORÀBULLET OPERATORÀSQUARE R",
  "OOTÀCUBE ROOTÀFOURTH ROOTÀPROPORTIONAL TOÀINFINITYÀRIGHT ANGLEÀANGLEÀMEASURED ANGLEÀSPHERICAL AN",
  "GLEÀDIVIDESÁOES NOT DIVIDEÀPARALLEL TOÀNOT PARALLEL TOÀLOGICAL ANDÈORÀINTERSECTIONÀUNIONÀINTEGRA",
  "LÀDOUBLE INTEGRALÀTRIPLE INTEGRALÀCONTOUR INTEGRALÀSURFACE INTEGRALÀVOLUME INTEGRALÀCLOCKWISE IN",
  "TEGRALÊCONTOUR INTEGRALÀANTICLOCKWISE CONTOUR INTEGRALÀTHEREFOREÀBECAUSEÀRATIOÀPROPORTIONÀDOT MI",
  "NUSÀEXCESSÀGEOMETRIC PROPORTIONÀHOMOTHETICÀTILDE OPERATORÀREVERSED TILDEÀINVERTED LAZY SÀSINE WA",
  "VEÀWREATH PRODUCTÀNOT TILDEÀMINUS TILDEÀASYMPTOTICALLY EQUAL TOÀNOT ASYMPTOTICALLY EQUAL TOÀAPPR",
  "OXIMATELY EQUAL TOÎBUT NOT ACTUALLY EQUAL TOÀNEITHER APPROXIMATELY NOR ACTUALLY EQUAL TOÀALMOST ",
  "EQUAL TOÀNOT ALMOST EQUAL TOÀALMOST EQUAL OR EQUAL TOÀTRIPLE TILDEÀALL EQUAL TOÀEQUIVALENT TOÀGE",
  "OMETRICALLY EQUIVALENT TOÀDIFFERENCE BETWEENÀAPPROACHES THE LIMITÀGEOMETRICALLY EQUAL TOÀAPPROXI",
  "MATELY EQUAL TO OR THE IMAGE OFÀIMAGE OF OR APPROXIMATELY EQUAL TOÀCOLON EQUALSÀEQUALS COLONÀRIN",
  "G IN EQUAL TOÅEQUAL TOÀCORRESPONDS TOÀESTIMATESÁQUIANGULAR TOÀSTAR EQUALSÀDELTA EQUAL TOÀEQUAL T",
  "O BY DEFINITIONÀMEASURED BYÀQUESTIONED EQUAL TOÀNOT EQUAL TOÀIDENTICAL TOÀNOT IDENTICAL TOÀSTRIC",
  "TLY EQUIVALENT TOÀLESS-THAN OR EQUAL TOÀGREATER-THAN OR EQUAL TOÀLESS-THAN OVER EQUAL TOÀGREATER",
  "-THAN OVER EQUAL TOÀLESS-THAN BUT NOT EQUAL TOÀGREATER-THAN BUT NOT EQUAL TOÀMUCH LESS-THANÅGREA",
  "TER-THANÀBETWEENÀNOT EQUIVALENT TOÄLESS-THANÄGREATER-THANÁEITHER LESS-THAN NOR EQUAL TOÈGREATER-",
  "THAN NOR EQUAL TOÀLESS-THAN OR EQUIVALENT TOÀGREATER-THAN OR EQUIVALENT TOÀNEITHER LESS-THAN NOR ",
  "EQUIVALENT TOÈGREATER-THAN NOR EQUIVALENT TOÀLESS-THAN OR GREATER-THANÀGREATER-THAN OR LESS-THAN",
  "ÀNEITHER LESS-THAN NOR GREATER-THANÈGREATER-THAN NOR LESS-THANÀPRECEDESÀSUCCEEDSÀPRECEDES OR EQU",
  "AL TOÀSUCCEEDS OR EQUAL TOÀPRECEDES OR EQUIVALENT TOÀSUCCEEDS OR EQUIVALENT TOÀDOES NOT PRECEDEÉ",
  "SUCCEEDÀSUBSET OFÂPERSET OFÀNOT A SUBSET OFÈPERSET OFÀSUBSET OF OR EQUAL TOÂPERSET OF OR EQUAL T",
  "OÀNEITHER A SUBSET OF NOR EQUAL TOÌPERSET OF NOR EQUAL TOÀSUBSET OF WITH NOT EQUAL TOÂPERSET OF ",
  "WITH NOT EQUAL TOÀMULTISETÈ MULTIPLICATIONÉUNIONÀSQUARE IMAGE OFÇORIGINAL OFÇIMAGE OF OR EQUAL T",
  "OÇORIGINAL OF OR EQUAL TOÇCAPÈUPÀCIRCLED PLUSÈMINUSÈTIMESÈDIVISION SLASHÉOT OPERATORÈRING OPERAT",
  "ORÈASTERISK OPERATORÈEQUALSÈDASHÀSQUARED PLUSÈMINUSÈTIMESÈDOT OPERATORÀRIGHT TACKÀLEFT TACKÀDOWN ",
  "TACKÀUP TACKÀASSERTIONÀMODELSÀTRUEÀFORCESÀTRIPLE VERTICAL BAR RIGHT TURNSTILEÀDOUBLE VERTICAL BA",
  "R DOUBLE RIGHT TURNSTILEÂES NOT PROVEÀNOT TRUEÀDOES NOT FORCEÀNEGATED DOUBLE VERTICAL BAR DOUBLE ",
  "RIGHT TURNSTILEÀPRECEDES UNDER RELATIONÀSUCCEEDS UNDER RELATIONÀNORMAL SUBGROUP OFÀCONTAINS AS N",
  "ORMAL SUBGROUPÀNORMAL SUBGROUP OF OR EQUAL TOÀCONTAINS AS NORMAL SUBGROUP OR EQUAL TOÀORIGINAL O",
  "FÀIMAGE OFÀMULTIMAPÀHERMITIAN CONJUGATE MATRIXÀINTERCALATEÀXORÀNANDÁORÀRIGHT ANGLE WITH ARCÆTRIA",
  "NGLEÀN-ARY LOGICAL ANDÎORÆINTERSECTIONÆUNIONÀDIAMOND OPERATORÁOT OPERATORÀSTAR OPERATORÀDIVISION ",
  "TIMESÀBOWTIEÀLEFT NORMAL FACTOR SEMIDIRECT PRODUCTÀRIGHT NORMAL FACTOR SEMIDIRECT PRODUCTÀLEFT S",
  "EMIDIRECT PRODUCTÀRIGHT SEMIDIRECT PRODUCTÁEVERSED TILDE EQUALSÀCURLY LOGICAL ORÎANDÀDOUBLE SUBS",
  "ETÉPERSETÇINTERSECTIONÇUNIONÀPITCHFORKÀEQUAL AND PARALLEL TOÀLESS-THAN WITH DOTÀGREATER-THAN WIT",
  "H DOTÀVERY MUCH LESS-THANÊGREATER-THANÀLESS-THAN EQUAL TO OR GREATER-THANÀGREATER-THAN EQUAL TO ",
  "OR LESS-THANÀEQUAL TO OR LESS-THANÌGREATER-THANÌPRECEDESÌSUCCEEDSÀDOES NOT PRECEDE OR EQUALÉSUCC",
  "EED OR EQUALÀNOT SQUARE IMAGE OF OR EQUAL TOËORIGINAL OF OR EQUAL TOÀSQUARE IMAGE OF OR NOT EQUA",
  "L TOÇORIGINAL OF OR NOT EQUAL TOÀLESS-THAN BUT NOT EQUIVALENT TOÀGREATER-THAN BUT NOT EQUIVALENT ",
  "TOÀPRECEDES BUT NOT EQUIVALENT TOÀSUCCEEDS BUT NOT EQUIVALENT TOÀNOT NORMAL SUBGROUP OFÀDOES NOT ",
  "CONTAIN AS NORMAL SUBGROUPÀNOT NORMAL SUBGROUP OF OR EQUAL TOÀDOES NOT CONTAIN AS NORMAL SUBGROU",
  "P OR EQUALÀVERTICAL ELLIPSISÀMIDLINE HORIZONTAL ELLIPSISÀUP RIGHT DIAGONAL ELLIPSISÀDOWN RIGHT D",
  "IAGONAL ELLIPSISÀELEMENT OF WITH LONG HORIZONTAL STROKEÐVERTICAL BAR AT END OF HORIZONTAL STROKE",
  "ÀSMALL ELEMENT OF WITH VERTICAL BAR AT END OF HORIZONTAL STROKEÀELEMENT OF WITH DOT ABOVEÐOVERBA",
  "RÀSMALL ELEMENT OF WITH OVERBARÀELEMENT OF WITH UNDERBARÐTWO HORIZONTAL STROKESÀCONTAINS WITH LO",
  "NG HORIZONTAL STROKEÎVERTICAL BAR AT END OF HORIZONTAL STROKEÀSMALL CONTAINS WITH VERTICAL BAR A",
  "T END OF HORIZONTAL STROKEÀCONTAINS WITH OVERBARÀSMALL CONTAINS WITH OVERBARÀZ NOTATION BAG MEMB",
  "ERSHIPÀDIAMETER SIGNÀELECTRIC ARROWÀHOUSEÀUP ARROWHEADÀDOWN ARROWHEADÀPROJECTIVEÁERSPECTIVEÀWAVY ",
  "LINEÀLEFT CEILINGÀRIGHT CEILINGÀLEFT FLOORÀRIGHT FLOORÀBOTTOM RIGHT CROPÇLEFT CROPÀTOP RIGHT CRO",
  "PÄLEFT CROPÀREVERSED NOT SIGNÀSQUARE LOZENGEÀARCÀSEGMENTÂCTORÀTELEPHONE RECORDERÀPOSITION INDICA",
  "TORÀVIEWDATA SQUAREÀPLACE OF INTEREST SIGNÀTURNED NOT SIGNÀWATCHÀHOURGLASSÀTOP LEFT CORNERÄRIGHT ",
  "CORNERÀBOTTOM LEFT CORNERÇRIGHT CORNERÀTOP HALF INTEGRALÀBOTTOM HALF INTEGRALÀFROWNÀSMILEÀUP ARR",
  "OWHEAD BETWEEN TWO HORIZONTAL BARSÀOPTION KEYÀERASE TO THE RIGHTÀX IN A RECTANGLE BOXÀKEYBOARDÀL",
  "EFT-POINTING ANGLE BRACKETÀRIGHT-POINTING ANGLE BRACKETÀERASE TO THE LEFTÀBENZENE RINGÀCYLINDRIC",
  "ITYÀALL AROUND-PROFILEÀSYMMETRYÀTOTAL RUNOUTÀDIMENSION ORIGINÀCONICAL TAPERÀSLOPEÀCOUNTERBOREÇSI",
  "NKÀAPL FUNCTIONAL SYMBOL I-BEAMÖSQUISH QUADÖQUAD EQUALÛDIVIDEÝAMONDÛJOTÛCIRCLEÖCIRCLE STILEÝJOTÖ",
  "SLASH BARÖBACKSLASH BARÖQUAD SLASHÛBACKSLASHÛLESS-THANÛGREATER-THANÖLEFTWARDS VANEÖRIGHTWARDS VA",
  "NEÖQUAD LEFTWARDS ARROWÛRIGHTWARDS ARROWÖCIRCLE BACKSLASHÖDOWN TACK UNDERBAR×ELTA STILEÖQUAD DOW",
  "N CARETÜELTAÖDOWN TACK JOTÖUPWARDS VANEÖQUAD UPWARDS ARROWÖUP TACK OVERBARÖDEL STILEÖQUAD UP CAR",
  "ETÛDELÖUP TACK JOTÖDOWNWARDS VANEÖQUAD DOWNWARDS ARROWØOTE UNDERBARÖDELTA UNDERBAR×IAMOND UNDERB",
  "ARÖJOT UNDERBARÖCIRCLE UNDERBARÖUP SHOE JOTÖQUOTE QUADÖCIRCLE STARÖQUAD COLONÖUP TACK DIAERESISÖ",
  "DEL DIAERESISÖSTAR DIAERESISÖJOT DIAERESISÖCIRCLE DIAERESISÖDOWN SHOE STILEÖLEFT SHOE STILEÖTILD",
  "E DIAERESISÖGREATER-THAN DIAERESISÖCOMMA BARÖDEL TILDEÖZILDEÖSTILE TILDE×EMICOLON UNDERBARÖQUAD ",
  "NOT EQUALÛQUESTIONÖDOWN CARET TILDEÖUP CARET TILDEÖIOTAÖRHOÖOMEGAÖALPHA UNDERBARÖEPSILON UNDERBA",
  "RÖIOTA UNDERBARÖOMEGA UNDERBARÖALPHAÀNOT CHECK MARKÀRIGHT ANGLE WITH DOWNWARDS ZIGZAG ARROWÀSHOU",
  "LDERED OPEN BOXÀBELL SYMBOLÀVERTICAL LINE WITH MIDDLE DOTÀINSERTION SYMBOLÀCONTINUOUS UNDERLINE ",
  "SYMBOLÀDISCONTINUOUS UNDERLINE SYMBOLÀEMPHASIS SYMBOLÀCOMPOSITION SYMBOLÀWHITE SQUARE WITH CENTR",
  "E VERTICAL LINEÀENTER SYMBOLÀALTERNATIVE KEY SYMBOLÀHELM SYMBOLÀCIRCLED HORIZONTAL BAR WITH NOTC",
  "HÈTRIANGLE DOWNÀBROKEN CIRCLE WITH NORTHWEST ARROWÀUNDO SYMBOLÀMONOSTABLE SYMBOLÀHYSTERESIS SYMB",
  "OLÀOPEN-CIRCUIT-OUTPUT H-TYPE SYMBOLÔL-TYPE SYMBOLÀPASSIVE-PULL-DOWN-OUTPUT SYMBOLÍUP-OUTPUT SYM",
  "BOLÀDIRECT CURRENT SYMBOL FORM TWOÀSOFTWARE-FUNCTION SYMBOLÀAPL FUNCTIONAL SYMBOL QUADÀDECIMAL S",
  "EPARATOR KEY SYMBOLÀPREVIOUS PAGEÀNEXT PAGEÀPRINT SCREEN SYMBOLÀCLEAR SCREEN SYMBOLÀLEFT PARENTH",
  "ESIS UPPER HOOKÑEXTENSIONÑLOWER HOOKÀRIGHT PARENTHESIS UPPER HOOKÒEXTENSIONÒLOWER HOOKÀLEFT SQUA",
  "RE BRACKET UPPER CORNERÔEXTENSIONÔLOWER CORNERÀRIGHT SQUARE BRACKET UPPER CORNERÕEXTENSIONÕLOWER ",
  "CORNERÀLEFT CURLY BRACKET UPPER HOOKÓMIDDLE PIECEÓLOWER HOOKÀCURLY BRACKET EXTENSIONÀRIGHT CURLY ",
  "BRACKET UPPER HOOKÔMIDDLE PIECEÔLOWER HOOKÀINTEGRAL EXTENSIONÀHORIZONTAL LINE EXTENSIONÀUPPER LE",
  "FT OR LOWER RIGHT CURLY BRACKET SECTIONÆRIGHT OR LOWER LEFT CURLY BRACKET SECTIONÀSUMMATION TOPÊ",
  "BOTTOMÀTOP SQUARE BRACKETÀBOTTOM SQUARE BRACKETÕ OVER TOP SQUARE BRACKETÀRADICAL SYMBOL BOTTOMÀL",
  "EFT VERTICAL BOX LINEÀRIGHT VERTICAL BOX LINEÀHORIZONTAL SCAN LINE-1Õ3Õ7Õ9ÀDENTISTRY SYMBOL LIGH",
  "T VERTICAL AND TOP RIGHTäBOTTOM RIGHTàWITH CIRCLE×DOWN AND HORIZONTAL WITH CIRCLE×UP AND HORIZON",
  "TAL WITH CIRCLE×VERTICAL WITH TRIANGLE×DOWN AND HORIZONTAL WITH TRIANGLE×UP AND HORIZONTAL WITH ",
  "TRIANGLE×VERTICAL AND WAVE×DOWN AND HORIZONTAL WITH WAVE×UP AND HORIZONTAL WITH WAVE×DOWN AND HO",
  "RIZONTAL×UP AND HORIZONTAL×VERTICAL AND TOP LEFTäBOTTOM LEFTÀSQUARE FOOTÀRETURN SYMBOLÀEJECT SYM",
  "BOLÀVERTICAL LINE EXTENSIONÀMETRICAL BREVEÉLONG OVER SHORTÉSHORT OVER LONGÉLONG OVER TWO SHORTSÉ",
  "TWO SHORTS OVER LONGÔJOINEDÊRISEMEÊETRASEMEÉPENTASEMEÀEARTH GROUNDÀFUSEÀTOP PARENTHESISÀBOTTOM P",
  "ARENTHESISÀTOP CURLY BRACKETÀBOTTOM CURLY BRACKETÀTOP TORTOISE SHELL BRACKETÀBOTTOM TORTOISE SHE",
  "LL BRACKETÀWHITE TRAPEZIUMÀBENZENE RING WITH CIRCLEÀSTRAIGHTNESSÀFLATNESSÀAC CURRENTÀELECTRICAL ",
  "INTERSECTIONÀDECIMAL EXPONENT SYMBOLÀBLACK RIGHT-POINTING DOUBLE TRIANGLEÆLEFT-POINTING DOUBLE T",
  "RIANGLEÆUP-POINTING DOUBLE TRIANGLEÆDOWN-POINTING DOUBLE TRIANGLEÆRIGHT-POINTING DOUBLE TRIANGLE ",
  "WITH VERTICAL BARÆLEFT-POINTING DOUBLE TRIANGLE WITH VERTICAL BARÆRIGHT-POINTING TRIANGLE WITH D",
  "OUBLE VERTICAL BARÀALARM CLOCKÀSTOPWATCHÀTIMER CLOCKÀHOURGLASS WITH FLOWING SANDÀBLACK MEDIUM LE",
  "FT-POINTING TRIANGLEÍRIGHT-POINTING TRIANGLEÍUP-POINTING TRIANGLEÍDOWN-POINTING TRIANGLEÀDOUBLE ",
  "VERTICAL BARÀBLACK SQUARE FOR STOPÆCIRCLE FOR RECORDÀPOWER SYMBOLÆON-OFF SYMBOLÈ SYMBOLÆSLEEP SY",
  "MBOLÀOBSERVER EYE SYMBOLÀSYMBOL FOR NULLËSTART OF HEADINGÔTEXTËEND OF TEXTÓRANSMISSIONÍQUIRYËACK",
  "NOWLEDGEËBELLÌACKSPACEËHORIZONTAL TABULATIONËLINE FEEDËVERTICAL TABULATIONËFORM FEEDËCARRIAGE RE",
  "TURNËSHIFT OUTÑINËDATA LINK ESCAPEÌEVICE CONTROL ONEÚTWOÛHREEÚFOURËNEGATIVE ACKNOWLEDGEËSYNCHRON",
  "OUS IDLEËEND OF TRANSMISSION BLOCKËCANCELËEND OF MEDIUMËSUBSTITUTEËESCAPEËFILE SEPARATORËGROUP S",
  "EPARATORËRECORD SEPARATORËUNIT SEPARATORËSPACEËDELETEÀBLANK SYMBOLÀOPEN BOXÀSYMBOL FOR NEWLINEËD",
  "ELETE FORM TWOËSUBSTITUTE FORM TWO#2440ÀOCR HOOKÄCHAIRÄFORKÄINVERTED FORKÄBELT BUCKLEÅOW TIEÅRAN",
  "CH BANK IDENTIFICATIONÄAMOUNT OF CHECKÄDASHÄCUSTOMER ACCOUNT NUMBERÄDOUBLE BACKSLASH#2460ÀCIRCLE",
  "D DIGIT ONEÎTWOÏHREEÎFOURÏIVEÎSIXÏEVENÎEIGHTÎNINEÈNUMBER TENÏELEVENÏTWELVEÐHIRTEENÏFOURTEENÐIFTE",
  "ENÏSIXTEENÐEVENTEENÏEIGHTEENÏNINETEENÏTWENTYÀPARENTHESIZED DIGIT ONEÔTWOÕHREEÔFOURÕIVEÔSIXÕEVENÔ",
  "EIGHTÔNINEÎNUMBER TENÕELEVENÕTWELVEÖHIRTEENÕFOURTEENÖIFTEENÕSIXTEENÖEVENTEENÕEIGHTEENÕNINETEENÕT",
  "WENTYÀDIGIT ONE FULL STOPÆTWO FULL STOPÇHREE FULL STOPÆFOUR FULL STOPÇIVE FULL STOPÆSIX FULL STO",
  "PÇEVEN FULL STOPÆEIGHT FULL STOPÆNINE FULL STOPÀNUMBER TEN FULL STOPÇELEVEN FULL STOPÇTWELVE FUL",
  "L STOPÈHIRTEEN FULL STOPÇFOURTEEN FULL STOPÈIFTEEN FULL STOPÇSIXTEEN FULL STOPÈEVENTEEN FULL STO",
  "PÇEIGHTEEN FULL STOPÇNINETEEN FULL STOPÇTWENTY FULL STOPÀPARENTHESIZED LATIN SMALL LETTER AáBáCá",
  "DáEáFáGáHáIáJáKáLáMáNáOáPáQáRáSáTáUáVáWáXáYáZÀCIRCLED LATIN CAPITAL LETTER AÝBÝCÝDÝEÝFÝGÝHÝIÝJÝK",
  "ÝLÝMÝNÝOÝPÝQÝRÝSÝTÝUÝVÝWÝXÝYÝZÎSMALL LETTER AÛBÛCÛDÛEÛFÛGÛHÛIÛJÛKÛLÛMÛNÛOÛPÛQÛRÛSÛTÛUÛVÛWÛXÛYÛZÈ",
  "DIGIT ZEROÀNEGATIVE CIRCLED NUMBER ELEVENØTWELVEÙHIRTEENØFOURTEENÙIFTEENØSIXTEENÙEVENTEENØEIGHTE",
  "ENØNINETEENØTWENTYÀDOUBLE CIRCLED DIGIT ONEÕTWOÖHREEÕFOURÖIVEÕSIXÖEVENÕEIGHTÕNINEÏNUMBER TENÀNEG",
  "ATIVE CIRCLED DIGIT ZEROÀBOX DRAWINGS LIGHT HORIZONTALÍHEAVY HORIZONTALÍLIGHT VERTICALÍHEAVY VER",
  "TICALÍLIGHT TRIPLE DASH HORIZONTALÍHEAVY TRIPLE DASH HORIZONTALÍLIGHT TRIPLE DASH VERTICALÍHEAVY ",
  "TRIPLE DASH VERTICALÍLIGHT QUADRUPLE DASH HORIZONTALÍHEAVY QUADRUPLE DASH HORIZONTALÍLIGHT QUADR",
  "UPLE DASH VERTICALÍHEAVY QUADRUPLE DASH VERTICALÍLIGHT DOWN AND RIGHTÍDOWN LIGHT AND RIGHT HEAVY",
  "ÒHEAVY AND RIGHT LIGHTÍHEAVY DOWN AND RIGHTÍLIGHT DOWN AND LEFTÍDOWN LIGHT AND LEFT HEAVYÒHEAVY ",
  "AND LEFT LIGHTÍHEAVY DOWN AND LEFTÍLIGHT UP AND RIGHTÍUP LIGHT AND RIGHT HEAVYÐHEAVY AND RIGHT L",
  "IGHTÍHEAVY UP AND RIGHTÍLIGHT UP AND LEFTÍUP LIGHT AND LEFT HEAVYÐHEAVY AND LEFT LIGHTÍHEAVY UP ",
  "AND LEFTÍLIGHT VERTICAL AND RIGHTÍVERTICAL LIGHT AND RIGHT HEAVYÍUP HEAVY AND RIGHT DOWN LIGHTÍD",
  "OWN HEAVY AND RIGHT UP LIGHTÍVERTICAL HEAVY AND RIGHT LIGHTÍDOWN LIGHT AND RIGHT UP HEAVYÍUP LIG",
  "HT AND RIGHT DOWN HEAVYÍHEAVY VERTICAL AND RIGHTÍLIGHT VERTICAL AND LEFTÍVERTICAL LIGHT AND LEFT ",
  "HEAVYÍUP HEAVY AND LEFT DOWN LIGHTÍDOWN HEAVY AND LEFT UP LIGHTÍVERTICAL HEAVY AND LEFT LIGHTÍDO",
  "WN LIGHT AND LEFT UP HEAVYÍUP LIGHT AND LEFT DOWN HEAVYÍHEAVY VERTICAL AND LEFTÍLIGHT DOWN AND H",
  "ORIZONTALÎEFT HEAVY AND RIGHT DOWN LIGHTÍRIGHT HEAVY AND LEFT DOWN LIGHTÍDOWN LIGHT AND HORIZONT",
  "AL HEAVYÒHEAVY AND HORIZONTAL LIGHTÍRIGHT LIGHT AND LEFT DOWN HEAVYÍLEFT LIGHT AND RIGHT DOWN HE",
  "AVYÍHEAVY DOWN AND HORIZONTALÍLIGHT UP AND HORIZONTALÎEFT HEAVY AND RIGHT UP LIGHTÍRIGHT HEAVY A",
  "ND LEFT UP LIGHTÍUP LIGHT AND HORIZONTAL HEAVYÐHEAVY AND HORIZONTAL LIGHTÍRIGHT LIGHT AND LEFT U",
  "P HEAVYÍLEFT LIGHT AND RIGHT UP HEAVYÍHEAVY UP AND HORIZONTALÍLIGHT VERTICAL AND HORIZONTALÎEFT ",
  "HEAVY AND RIGHT VERTICAL LIGHTÍRIGHT HEAVY AND LEFT VERTICAL LIGHTÍVERTICAL LIGHT AND HORIZONTAL ",
  "HEAVYÍUP HEAVY AND DOWN HORIZONTAL LIGHTÍDOWN HEAVY AND UP HORIZONTAL LIGHTÍVERTICAL HEAVY AND H",
  "ORIZONTAL LIGHTÍLEFT UP HEAVY AND RIGHT DOWN LIGHTÍRIGHT UP HEAVY AND LEFT DOWN LIGHTÍLEFT DOWN ",
  "HEAVY AND RIGHT UP LIGHTÍRIGHT DOWN HEAVY AND LEFT UP LIGHTÍDOWN LIGHT AND UP HORIZONTAL HEAVYÍU",
  "P LIGHT AND DOWN HORIZONTAL HEAVYÍRIGHT LIGHT AND LEFT VERTICAL HEAVYÍLEFT LIGHT AND RIGHT VERTI",
  "CAL HEAVYÍHEAVY VERTICAL AND HORIZONTALÍLIGHT DOUBLE DASH HORIZONTALÍHEAVY DOUBLE DASH HORIZONTA",
  "LÍLIGHT DOUBLE DASH VERTICALÍHEAVY DOUBLE DASH VERTICALÍDOUBLE HORIZONTALÔVERTICALÏWN SINGLE AND ",
  "RIGHT DOUBLEÒDOUBLE AND RIGHT SINGLEÏUBLE DOWN AND RIGHTÏWN SINGLE AND LEFT DOUBLEÒDOUBLE AND LE",
  "FT SINGLEÏUBLE DOWN AND LEFTÍUP SINGLE AND RIGHT DOUBLEÐDOUBLE AND RIGHT SINGLEÍDOUBLE UP AND RI",
  "GHTÍUP SINGLE AND LEFT DOUBLEÐDOUBLE AND LEFT SINGLEÍDOUBLE UP AND LEFTÍVERTICAL SINGLE AND RIGH",
  "T DOUBLEÖDOUBLE AND RIGHT SINGLEÍDOUBLE VERTICAL AND RIGHTÍVERTICAL SINGLE AND LEFT DOUBLEÖDOUBL",
  "E AND LEFT SINGLEÍDOUBLE VERTICAL AND LEFTÏWN SINGLE AND HORIZONTAL DOUBLEÒDOUBLE AND HORIZONTAL ",
  "SINGLEÏUBLE DOWN AND HORIZONTALÍUP SINGLE AND HORIZONTAL DOUBLEÐDOUBLE AND HORIZONTAL SINGLEÍDOU",
  "BLE UP AND HORIZONTALÍVERTICAL SINGLE AND HORIZONTAL DOUBLEÖDOUBLE AND HORIZONTAL SINGLEÍDOUBLE ",
  "VERTICAL AND HORIZONTALÍLIGHT ARC DOWN AND RIGHTàLEFT×UP AND LEFTÞRIGHTÓDIAGONAL UPPER RIGHT TO ",
  "LOWER LEFTâLEFT TO LOWER RIGHTÜCROSSÓLEFTÓUPÓRIGHTÓDOWNÍHEAVY LEFTÓUPÓRIGHTÓDOWNÍLIGHT LEFT AND ",
  "HEAVY RIGHTÓUP AND HEAVY DOWNÍHEAVY LEFT AND LIGHT RIGHTÓUP AND LIGHT DOWNÀUPPER HALF BLOCKÀLOWE",
  "R ONE EIGHTH BLOCKÊQUARTER BLOCKÆTHREE EIGHTHS BLOCKÆHALF BLOCKÆFIVE EIGHTHS BLOCKÆTHREE QUARTER",
  "S BLOCKÆSEVEN EIGHTHS BLOCKÀFULL BLOCKÀLEFT SEVEN EIGHTHS BLOCKÅTHREE QUARTERS BLOCKÅFIVE EIGHTH",
  "S BLOCKÅHALF BLOCKÅTHREE EIGHTHS BLOCKÅONE QUARTER BLOCKÉEIGHTH BLOCKÀRIGHT HALF BLOCKÀLIGHT SHA",
  "DEÀMEDIUM SHADEÀDARK SHADEÀUPPER ONE EIGHTH BLOCKÀRIGHT ONE EIGHTH BLOCKÀQUADRANT LOWER LEFTÏRIG",
  "HTÉUPPER LEFTÓ AND LOWER LEFT AND LOWER RIGHTÞRIGHTØUPPER RIGHT AND LOWER LEFTîRIGHTÏRIGHTÔ AND ",
  "LOWER LEFTã AND LOWER RIGHTÀBLACK SQUAREÀWHITE SQUAREÌ WITH ROUNDED CORNERSÍCONTAINING BLACK SMA",
  "LL SQUAREÀSQUARE WITH HORIZONTAL FILLÌVERTICAL FILLÌORTHOGONAL CROSSHATCH FILLÌUPPER LEFT TO LOW",
  "ER RIGHT FILLÒRIGHT TO LOWER LEFT FILLÌDIAGONAL CROSSHATCH FILLÀBLACK SMALL SQUAREÀWHITE SMALL S",
  "QUAREÀBLACK RECTANGLEÀWHITE RECTANGLEÀBLACK VERTICAL RECTANGLEÀWHITE VERTICAL RECTANGLEÀBLACK PA",
  "RALLELOGRAMÀWHITE PARALLELOGRAMÀBLACK UP-POINTING TRIANGLEÀWHITE UP-POINTING TRIANGLEÀBLACK UP-P",
  "OINTING SMALL TRIANGLEÀWHITE UP-POINTING SMALL TRIANGLEÀBLACK RIGHT-POINTING TRIANGLEÀWHITE RIGH",
  "T-POINTING TRIANGLEÀBLACK RIGHT-POINTING SMALL TRIANGLEÀWHITE RIGHT-POINTING SMALL TRIANGLEÀBLAC",
  "K RIGHT-POINTING POINTERÀWHITE RIGHT-POINTING POINTERÀBLACK DOWN-POINTING TRIANGLEÀWHITE DOWN-PO",
  "INTING TRIANGLEÀBLACK DOWN-POINTING SMALL TRIANGLEÀWHITE DOWN-POINTING SMALL TRIANGLEÀBLACK LEFT",
  "-POINTING TRIANGLEÀWHITE LEFT-POINTING TRIANGLEÀBLACK LEFT-POINTING SMALL TRIANGLEÀWHITE LEFT-PO",
  "INTING SMALL TRIANGLEÀBLACK LEFT-POINTING POINTERÀWHITE LEFT-POINTING POINTERÀBLACK DIAMONDÀWHIT",
  "E DIAMONDÍ CONTAINING BLACK SMALL DIAMONDÀFISHEYEÀLOZENGEÀWHITE CIRCLEÀDOTTED CIRCLEÀCIRCLE WITH ",
  "VERTICAL FILLÀBULLSEYEÁLACK CIRCLEÀCIRCLE WITH LEFT HALF BLACKÌRIGHT HALF BLACKÌLOWER HALF BLACK",
  "ÌUPPER HALF BLACKÒRIGHT QUADRANT BLACKÌALL BUT UPPER LEFT QUADRANT BLACKÀLEFT HALF BLACK CIRCLEÀ",
  "RIGHT HALF BLACK CIRCLEÀINVERSE BULLETÈWHITE CIRCLEÀUPPER HALF INVERSE WHITE CIRCLEÀLOWER HALF I",
  "NVERSE WHITE CIRCLEÀUPPER LEFT QUADRANT CIRCULAR ARCÆRIGHT QUADRANT CIRCULAR ARCÀLOWER RIGHT QUA",
  "DRANT CIRCULAR ARCÆLEFT QUADRANT CIRCULAR ARCÀUPPER HALF CIRCLEÀLOWER HALF CIRCLEÀBLACK LOWER RI",
  "GHT TRIANGLEÌLEFT TRIANGLEÆUPPER LEFT TRIANGLEÌRIGHT TRIANGLEÀWHITE BULLETÀSQUARE WITH LEFT HALF ",
  "BLACKÌRIGHT HALF BLACKÌUPPER LEFT DIAGONAL HALF BLACKÌLOWER RIGHT DIAGONAL HALF BLACKÀWHITE SQUA",
  "RE WITH VERTICAL BISECTING LINEÆUP-POINTING TRIANGLE WITH DOTÀUP-POINTING TRIANGLE WITH LEFT HAL",
  "F BLACKÚRIGHT HALF BLACKÀLARGE CIRCLEÀWHITE SQUARE WITH UPPER LEFT QUADRANTÒLOWER LEFT QUADRANTØ",
  "RIGHT QUADRANTÒUPPER RIGHT QUADRANTÆCIRCLE WITH UPPER LEFT QUADRANTÒLOWER LEFT QUADRANTØRIGHT QU",
  "ADRANTÒUPPER RIGHT QUADRANTÀUPPER LEFT TRIANGLEÆRIGHT TRIANGLEÀLOWER LEFT TRIANGLEÀWHITE MEDIUM ",
  "SQUAREÀBLACK MEDIUM SQUAREÀWHITE MEDIUM SMALL SQUAREÀBLACK MEDIUM SMALL SQUAREÀLOWER RIGHT TRIAN",
  "GLEÀBLACK SUN WITH RAYSÀCLOUDÀUMBRELLAÀSNOWMANÀCOMETÀBLACK STARÀWHITE STARÀLIGHTNINGÀTHUNDERSTOR",
  "MÀSUNÀASCENDING NODEÀDESCENDING NODEÀCONJUNCTIONÀOPPOSITIONÀBLACK TELEPHONEÀWHITE TELEPHONEÀBALL",
  "OT BOXÊ WITH CHECKÐXÀSALTIREÀUMBRELLA WITH RAIN DROPSÀHOT BEVERAGEÀWHITE SHOGI PIECEÀBLACK SHOGI ",
  "PIECEÀSHAMROCKÀREVERSED ROTATED FLORAL HEART BULLETÀBLACK LEFT POINTING INDEXÆRIGHT POINTING IND",
  "EXÀWHITE LEFT POINTING INDEXÆUP POINTING INDEXÆRIGHT POINTING INDEXÆDOWN POINTING INDEXÀSKULL AN",
  "D CROSSBONESÀCAUTION SIGNÀRADIOACTIVE SIGNÀBIOHAZARD SIGNÀCADUCEUSÀANKHÀORTHODOX CROSSÀCHI RHOÁR",
  "OSS OF LORRAINEÉJERUSALEMÀSTAR AND CRESCENTÀFARSI SYMBOLÀADI SHAKTIÀHAMMER AND SICKLEÀPEACE SYMB",
  "OLÀYIN YANGÀTRIGRAM FOR HEAVENÌLAKEÌFIREÌTHUNDERÌWINDÍATERÌMOUNTAINÌEARTHÀWHEEL OF DHARMAÂITE FR",
  "OWNING FACEÆSMILING FACEÀBLACK SMILING FACEÀWHITE SUN WITH RAYSÀFIRST QUARTER MOONÀLAST QUARTER ",
  "MOONÀMERCURYÀFEMALE SIGNÀEARTHÀMALE SIGNÀJUPITERÀSATURNÀURANUSÀNEPTUNEÀPLUTOÀARIESÀTAURUSÀGEMINI",
  "ÀCANCERÀLEOÀVIRGOÀLIBRAÀSCORPIUSÁAGITTARIUSÀCAPRICORNÀAQUARIUSÀPISCESÀWHITE CHESS KINGÌQUEENÌROO",
  "KÌBISHOPÌKNIGHTÌPAWNÀBLACK CHESS KINGÌQUEENÌROOKÌBISHOPÌKNIGHTÌPAWNÆSPADE SUITÀWHITE HEART SUITÆ",
  "DIAMOND SUITÀBLACK CLUB SUITÀWHITE SPADE SUITÀBLACK HEART SUITÆDIAMOND SUITÀWHITE CLUB SUITÀHOT ",
  "SPRINGSÀQUARTER NOTEÀEIGHTH NOTEÀBEAMED EIGHTH NOTESÇSIXTEENTH NOTESÀMUSIC FLAT SIGNÆNATURAL SIG",
  "NÆSHARP SIGNÀWEST SYRIAC CROSSÀEAST SYRIAC CROSSÀUNIVERSAL RECYCLING SYMBOLÀRECYCLING SYMBOL FOR ",
  "TYPE-1 PLASTICSÚ2 PLASTICSÚ3 PLASTICSÚ4 PLASTICSÚ5 PLASTICSÚ6 PLASTICSÚ7 PLASTICSÕGENERIC MATERI",
  "ALSÀBLACK UNIVERSAL RECYCLING SYMBOLÀRECYCLED PAPER SYMBOLÀPARTIALLY-RECYCLED PAPER SYMBOLÁERMAN",
  "ENT PAPER SIGNÀWHEELCHAIR SYMBOLÀDIE FACE-1É2É3É4É5É6ÀWHITE CIRCLE WITH DOT RIGHTÒTWO DOTSÀBLACK ",
  "CIRCLE WITH WHITE DOT RIGHTÒTWO WHITE DOTSÀMONOGRAM FOR YANGÎINÀDIGRAM FOR GREATER YANGËLESSER Y",
  "INÓANGËGREATER YINÀWHITE FLAGÀBLACK FLAGÀHAMMER AND PICKÀANCHORÀCROSSED SWORDSÀSTAFF OF AESCULAP",
  "IUSÁCALESÀALEMBICÀFLOWERÀGEARÀSTAFF OF HERMESÀATOM SYMBOLÀFLEUR-DE-LISÀOUTLINED WHITE STARÀTHREE ",
  "LINES CONVERGING RIGHT×LEFTÀWARNING SIGNÀHIGH VOLTAGE SIGNÀDOUBLED FEMALE SIGNÈMALE SIGNÀINTERLO",
  "CKED FEMALE AND MALE SIGNÀMALE AND FEMALE SIGNÅWITH STROKE SIGNÑAND MALE AND FEMALE SIGNÀVERTICA",
  "L MALE WITH STROKE SIGNÀHORIZONTAL MALE WITH STROKE SIGNÀMEDIUM WHITE CIRCLEÇBLACK CIRCLEÇSMALL ",
  "WHITE CIRCLEÁARRIAGE SYMBOLÀDIVORCE SYMBOLÀUNMARRIED PARTNERSHIP SYMBOLÀCOFFINÀFUNERAL URNÀNEUTE",
  "RÀCERESÀPALLASÀJUNOÀVESTAÀCHIRONÀBLACK MOON LILITHÀSEXTILEÂMISEXTILEÀQUINCUNXÀSESQUIQUADRATEÁOCC",
  "ER BALLÀBASEBALLÀSQUARED KEYÀWHITE DRAUGHTS MANÏKINGÀBLACK DRAUGHTS MANÏKINGÀSNOWMAN WITHOUT SNO",
  "WÁUN BEHIND CLOUDÀRAINÀBLACK SNOWMANÀTHUNDER CLOUD AND RAINÁURNED WHITE SHOGI PIECEÇBLACK SHOGI ",
  "PIECEÀWHITE DIAMOND IN SQUAREÀCROSSING LANESÀDISABLED CARÀOPHIUCHUSÀPICKÀCAR SLIDINGÀHELMET WITH ",
  "WHITE CROSSÀCIRCLED CROSSING LANESÁHAINSÀNO ENTRYÀALTERNATE ONE-WAY LEFT WAY TRAFFICÀBLACK TWO-W",
  "AY LEFT WAY TRAFFICÀWHITE TWO-WAY LEFT WAY TRAFFICÀBLACK LEFT LANE MERGEÀWHITE LEFT LANE MERGEÀD",
  "RIVE SLOW SIGNÀHEAVY WHITE DOWN-POINTING TRIANGLEÀLEFT CLOSED ENTRYÀSQUARED SALTIREÀFALLING DIAG",
  "ONAL IN WHITE CIRCLE IN BLACK SQUAREÀBLACK TRUCKÀRESTRICTED LEFT ENTRY-1Ö2ÀASTRONOMICAL SYMBOL F",
  "OR URANUSÀHEAVY CIRCLE WITH STROKE AND TWO DOTS ABOVEÀPENTAGRAMÀRIGHT-HANDED INTERLACED PENTAGRA",
  "MÀLEFT-HANDED INTERLACED PENTAGRAMÀINVERTED PENTAGRAMÀBLACK CROSS ON SHIELDÀSHINTO SHRINEÀCHURCH",
  "ÁASTLEÀHISTORIC SITEÀGEAR WITHOUT HUBÉ HANDLESÀMAP SYMBOL FOR LIGHTHOUSEÁOUNTAINÀUMBRELLA ON GRO",
  "UNDÀFOUNTAINÁLAG IN HOLEÁERRYÀSAILBOATÁQUARE FOUR CORNERSÁKIERÀICE SKATEÀPERSON WITH BALLÀTENTÀJ",
  "APANESE BANK SYMBOLÀHEADSTONE GRAVEYARD SYMBOLÀFUEL PUMPÀCUP ON BLACK SQUAREÀWHITE FLAG WITH HOR",
  "IZONTAL MIDDLE BLACK STRIPEÀBLACK SAFETY SCISSORSÀUPPER BLADE SCISSORSÀBLACK SCISSORSÀLOWER BLAD",
  "E SCISSORSÀWHITE SCISSORSÆHEAVY CHECK MARKÀTELEPHONE LOCATION SIGNÁAPE DRIVEÀAIRPLANEÀENVELOPEÀR",
  "AISED FISTÇHANDÀVICTORY HANDÀWRITING HANDÀLOWER RIGHT PENCILÀPENCILÀUPPER RIGHT PENCILÀWHITE NIB",
  "ÀBLACK NIBÀCHECK MARKÀHEAVY CHECK MARKÀMULTIPLICATION XÀHEAVY MULTIPLICATION XÀBALLOT XÀHEAVY BA",
  "LLOT XÀOUTLINED GREEK CROSSÀHEAVY GREEK CROSSÀOPEN CENTRE CROSSÀHEAVY OPEN CENTRE CROSSÀLATIN CR",
  "OSSÀSHADOWED WHITE LATIN CROSSÀOUTLINED LATIN CROSSÀMALTESE CROSSÀSTAR OF DAVIDÀFOUR TEARDROP-SP",
  "OKED ASTERISKÅBALLOON-SPOKED ASTERISKÀHEAVY FOUR BALLOON-SPOKED ASTERISKÀFOUR CLUB-SPOKED ASTERI",
  "SKÀBLACK FOUR POINTED STARÀWHITE FOUR POINTED STARÀSPARKLESÁTRESS OUTLINED WHITE STARÀCIRCLED WH",
  "ITE STARÀOPEN CENTRE BLACK STARÀBLACK CENTRE WHITE STARÀOUTLINED BLACK STARÀHEAVY OUTLINED BLACK ",
  "STARÀPINWHEEL STARÀSHADOWED WHITE STARÀHEAVY ASTERISKÀOPEN CENTRE ASTERISKÀEIGHT SPOKED ASTERISK",
  "ÆPOINTED BLACK STARÎPINWHEEL STARÀSIX POINTED BLACK STARÀEIGHT POINTED RECTILINEAR BLACK STARÀHE",
  "AVY EIGHT POINTED RECTILINEAR BLACK STARÀTWELVE POINTED BLACK STARÀSIXTEEN POINTED ASTERISKÀTEAR",
  "DROP-SPOKED ASTERISKÀOPEN CENTRE TEARDROP-SPOKED ASTERISKÀHEAVY TEARDROP-SPOKED ASTERISKÀSIX PET",
  "ALLED BLACK AND WHITE FLORETTEÀBLACK FLORETTEÀWHITE FLORETTEÀEIGHT PETALLED OUTLINED BLACK FLORE",
  "TTEÀCIRCLED OPEN CENTRE EIGHT POINTED STARÀHEAVY TEARDROP-SPOKED PINWHEEL ASTERISKÀSNOWFLAKEÀTIG",
  "HT TRIFOLIATE SNOWFLAKEÀHEAVY CHEVRON SNOWFLAKEÀSPARKLEÀHEAVY SPARKLEÀBALLOON-SPOKED ASTERISKÀEI",
  "GHT TEARDROP-SPOKED PROPELLER ASTERISKÀHEAVY EIGHT TEARDROP-SPOKED PROPELLER ASTERISKÀCROSS MARK",
  "ÀSHADOWED WHITE CIRCLEÀNEGATIVE SQUARED CROSS MARKÀLOWER RIGHT DROP-SHADOWED WHITE SQUAREÀUPPER ",
  "RIGHT DROP-SHADOWED WHITE SQUAREÀLOWER RIGHT SHADOWED WHITE SQUAREÀUPPER RIGHT SHADOWED WHITE SQ",
  "UAREÀBLACK QUESTION MARK ORNAMENTÀWHITE QUESTION MARK ORNAMENTÆEXCLAMATION MARK ORNAMENTÀBLACK D",
  "IAMOND MINUS WHITE XÀHEAVY EXCLAMATION MARK SYMBOLÀLIGHT VERTICAL BARÀMEDIUM VERTICAL BARÀHEAVY ",
  "VERTICAL BARÆSINGLE TURNED COMMA QUOTATION MARK ORNAMENTÍCOMMA QUOTATION MARK ORNAMENTÆDOUBLE TU",
  "RNED COMMA QUOTATION MARK ORNAMENTÍCOMMA QUOTATION MARK ORNAMENTÆLOW SINGLE COMMA QUOTATION MARK ",
  "ORNAMENTÊDOUBLE COMMA QUOTATION MARK ORNAMENTÀCURVED STEM PARAGRAPH SIGN ORNAMENTÀHEAVY EXCLAMAT",
  "ION MARK ORNAMENTÆHEART EXCLAMATION MARK ORNAMENTÆBLACK HEARTÀROTATED HEAVY BLACK HEART BULLETÀF",
  "LORAL HEARTÀROTATED FLORAL HEART BULLETÀMEDIUM LEFT PARENTHESIS ORNAMENTÇRIGHT PARENTHESIS ORNAM",
  "ENTÇFLATTENED LEFT PARENTHESIS ORNAMENTÑRIGHT PARENTHESIS ORNAMENTÇLEFT-POINTING ANGLE BRACKET O",
  "RNAMENTÇRIGHT-POINTING ANGLE BRACKET ORNAMENTÀHEAVY LEFT-POINTING ANGLE QUOTATION MARK ORNAMENTÆ",
  "RIGHT-POINTING ANGLE QUOTATION MARK ORNAMENTÆLEFT-POINTING ANGLE BRACKET ORNAMENTÆRIGHT-POINTING ",
  "ANGLE BRACKET ORNAMENTÀLIGHT LEFT TORTOISE SHELL BRACKET ORNAMENTÆRIGHT TORTOISE SHELL BRACKET O",
  "RNAMENTÀMEDIUM LEFT CURLY BRACKET ORNAMENTÇRIGHT CURLY BRACKET ORNAMENTÀDINGBAT NEGATIVE CIRCLED ",
  "DIGIT ONEßTWOàHREEßFOURàIVEßSIXàEVENßEIGHTßNINEÙNUMBER TENÈCIRCLED SANS-SERIF DIGIT ONEáTWOâHREE",
  "áFOURâIVEáSIXâEVENáEIGHTáNINEÛNUMBER TENÈNEGATIVE CIRCLED SANS-SERIF DIGIT ONEêTWOëHREEêFOURëIVE",
  "êSIXëEVENêEIGHTêNINEäNUMBER TENÀHEAVY WIDE-HEADED RIGHTWARDS ARROWÆPLUS SIGNÆMINUS SIGNÆDIVISION ",
  "SIGNÆSOUTH EAST ARROWÆRIGHTWARDS ARROWÆNORTH EAST ARROWÀDRAFTING POINT RIGHTWARDS ARROWÀHEAVY RO",
  "UND-TIPPED RIGHTWARDS ARROWÀTRIANGLE-HEADED RIGHTWARDS ARROWÀHEAVY TRIANGLE-HEADED RIGHTWARDS AR",
  "ROWÀDASHED TRIANGLE-HEADED RIGHTWARDS ARROWÀHEAVY DASHED TRIANGLE-HEADED RIGHTWARDS ARROWÀBLACK ",
  "RIGHTWARDS ARROWÀTHREE-D TOP-LIGHTED RIGHTWARDS ARROWHEADÈBOTTOM-LIGHTED RIGHTWARDS ARROWHEADÀBL",
  "ACK RIGHTWARDS ARROWHEADÀHEAVY BLACK CURVED DOWNWARDS AND RIGHTWARDS ARROWÓUPWARDS AND RIGHTWARD",
  "S ARROWÀSQUAT BLACK RIGHTWARDS ARROWÀHEAVY CONCAVE-POINTED BLACK RIGHTWARDS ARROWÀRIGHT-SHADED W",
  "HITE RIGHTWARDS ARROWÀLEFT-SHADED WHITE RIGHTWARDS ARROWÀBACK-TILTED SHADOWED WHITE RIGHTWARDS A",
  "RROWÀFRONT-TILTED SHADOWED WHITE RIGHTWARDS ARROWÀHEAVY LOWER RIGHT-SHADOWED WHITE RIGHTWARDS AR",
  "ROWÆUPPER RIGHT-SHADOWED WHITE RIGHTWARDS ARROWÀNOTCHED LOWER RIGHT-SHADOWED WHITE RIGHTWARDS AR",
  "ROWÀCURLY LOOPÀNOTCHED UPPER RIGHT-SHADOWED WHITE RIGHTWARDS ARROWÀCIRCLED HEAVY WHITE RIGHTWARD",
  "S ARROWÀWHITE-FEATHERED RIGHTWARDS ARROWÀBLACK-FEATHERED SOUTH EAST ARROWÐRIGHTWARDS ARROWÐNORTH ",
  "EAST ARROWÀHEAVY BLACK-FEATHERED SOUTH EAST ARROWÖRIGHTWARDS ARROWÖNORTH EAST ARROWÀTEARDROP-BAR",
  "BED RIGHTWARDS ARROWÀHEAVY TEARDROP-SHANKED RIGHTWARDS ARROWÀWEDGE-TAILED RIGHTWARDS ARROWÀHEAVY ",
  "WEDGE-TAILED RIGHTWARDS ARROWÀOPEN-OUTLINED RIGHTWARDS ARROWÀDOUBLE CURLY LOOPÀTHREE DIMENSIONAL ",
  "ANGLEÀWHITE TRIANGLE CONTAINING SMALL WHITE TRIANGLEÀPERPENDICULARÀOPEN SUBSETÇPERSETÀLEFT S-SHA",
  "PED BAG DELIMITERÀRIGHT S-SHAPED BAG DELIMITERÀOR WITH DOT INSIDEÀREVERSE SOLIDUS PRECEDING SUBS",
  "ETÀSUPERSET PRECEDING SOLIDUSÀVERTICAL BAR WITH HORIZONTAL STROKEÀMATHEMATICAL RISING DIAGONALÀL",
  "ONG DIVISIONÀMATHEMATICAL FALLING DIAGONALÀSQUARED LOGICAL ANDÐORÀWHITE DIAMOND WITH CENTRED DOT",
  "ÀAND WITH DOTÀELEMENT OF OPENING UPWARDSÀLOWER RIGHT CORNER WITH DOTÀUPPER LEFT CORNER WITH DOTÀ",
  "LEFT OUTER JOINÀRIGHT OUTER JOINÀFULL OUTER JOINÀLARGE UP TACKÆDOWN TACKÁEFT AND RIGHT DOUBLE TU",
  "RNSTILEÏTACKÅMULTIMAPÁONG RIGHT TACKÅLEFT TACKÀUP TACK WITH CIRCLE ABOVEÀLOZENGE DIVIDED BY HORI",
  "ZONTAL RULEÀWHITE CONCAVE-SIDED DIAMONDÛ WITH LEFTWARDS TICKáRIGHTWARDS TICKÆSQUARE WITH LEFTWAR",
  "DS TICKÒRIGHTWARDS TICKÀMATHEMATICAL LEFT WHITE SQUARE BRACKETÍRIGHT WHITE SQUARE BRACKETÍLEFT A",
  "NGLE BRACKETÍRIGHT ANGLE BRACKETÍLEFT DOUBLE ANGLE BRACKETÍRIGHT DOUBLE ANGLE BRACKETÍLEFT WHITE ",
  "TORTOISE SHELL BRACKETÍRIGHT WHITE TORTOISE SHELL BRACKETÍLEFT FLATTENED PARENTHESISÍRIGHT FLATT",
  "ENED PARENTHESISÀUPWARDS QUADRUPLE ARROWÀDOWNWARDS QUADRUPLE ARROWÀANTICLOCKWISE GAPPED CIRCLE A",
  "RROWÀCLOCKWISE GAPPED CIRCLE ARROWÀRIGHT ARROW WITH CIRCLED PLUSÀLONG LEFTWARDS ARROWÅRIGHTWARDS ",
  "ARROWÅLEFT RIGHT ARROWÉWARDS DOUBLE ARROWÅRIGHTWARDS DOUBLE ARROWÅLEFT RIGHT DOUBLE ARROWÉWARDS ",
  "ARROW FROM BARÅRIGHTWARDS ARROW FROM BARÅLEFTWARDS DOUBLE ARROW FROM BARÅRIGHTWARDS DOUBLE ARROW ",
  "FROM BARÐSQUIGGLE ARROWÀBRAILLE PATTERN BLANKÐDOTS-1Õ2Õ12Õ3Õ13Õ23Õ123Õ4Õ14Õ24Õ124Õ34Õ134Õ234Õ123",
  "4Õ5Õ15Õ25Õ125Õ35Õ135Õ235Õ1235Õ45Õ145Õ245Õ1245Õ345Õ1345Õ2345Õ12345Õ6Õ16Õ26Õ126Õ36Õ136Õ236Õ1236Õ46",
  "Õ146Õ246Õ1246Õ346Õ1346Õ2346Õ12346Õ56Õ156Õ256Õ1256Õ356Õ1356Õ2356Õ12356Õ456Õ1456Õ2456Õ12456Õ3456Õ1",
  "3456Õ23456Õ123456Õ7Õ17Õ27Õ127Õ37Õ137Õ237Õ1237Õ47Õ147Õ247Õ1247Õ347Õ1347Õ2347Õ12347Õ57Õ157Õ257Õ125",
  "7Õ357Õ1357Õ2357Õ12357Õ457Õ1457Õ2457Õ12457Õ3457Õ13457Õ23457Õ123457Õ67Õ167Õ267Õ1267Õ367Õ1367Õ2367Õ",
  "12367Õ467Õ1467Õ2467Õ12467Õ3467Õ13467Õ23467Õ123467Õ567Õ1567Õ2567Õ12567Õ3567Õ13567Õ23567Õ123567Õ45",
  "67Õ14567Õ24567Õ124567Õ34567Õ134567Õ234567Õ1234567Õ8Õ18Õ28Õ128Õ38Õ138Õ238Õ1238Õ48Õ148Õ248Õ1248Õ34",
  "8Õ1348Õ2348Õ12348Õ58Õ158Õ258Õ1258Õ358Õ1358Õ2358Õ12358Õ458Õ1458Õ2458Õ12458Õ3458Õ13458Õ23458Õ12345",
  "8Õ68Õ168Õ268Õ1268Õ368Õ1368Õ2368Õ12368Õ468Õ1468Õ2468Õ12468Õ3468Õ13468Õ23468Õ123468Õ568Õ1568Õ2568Õ",
  "12568Õ3568Õ13568Õ23568Õ123568Õ4568Õ14568Õ24568Õ124568Õ34568Õ134568Õ234568Õ1234568Õ78Õ178Õ278Õ127",
  "8Õ378Õ1378Õ2378Õ12378Õ478Õ1478Õ2478Õ12478Õ3478Õ13478Õ23478Õ123478Õ578Õ1578Õ2578Õ12578Õ3578Õ13578",
  "Õ23578Õ123578Õ4578Õ14578Õ24578Õ124578Õ34578Õ134578Õ234578Õ1234578Õ678Õ1678Õ2678Õ12678Õ3678Õ13678",
  "Õ23678Õ123678Õ4678Õ14678Õ24678Õ124678Õ34678Õ134678Õ234678Õ1234678Õ5678Õ15678Õ25678Õ125678Õ35678Õ",
  "135678Õ235678Õ1235678Õ45678Õ145678Õ245678Õ1245678Õ345678Õ1345678Õ2345678Õ12345678ÀRIGHTWARDS TWO",
  "-HEADED ARROW WITH VERTICAL STROKEáDOUBLE VERTICAL STROKEÀLEFTWARDS DOUBLE ARROW WITH VERTICAL S",
  "TROKEÀRIGHTWARDS DOUBLE ARROW WITH VERTICAL STROKEÀLEFT RIGHT DOUBLE ARROW WITH VERTICAL STROKEÀ",
  "RIGHTWARDS TWO-HEADED ARROW FROM BARÀLEFTWARDS DOUBLE ARROW FROM BARÀRIGHTWARDS DOUBLE ARROW FRO",
  "M BARÀDOWNWARDS ARROW WITH HORIZONTAL STROKEÀUPWARDS ARROW WITH HORIZONTAL STROKEÈTRIPLE ARROWÀD",
  "OWNWARDS TRIPLE ARROWÀLEFTWARDS DOUBLE DASH ARROWÀRIGHTWARDS DOUBLE DASH ARROWÀLEFTWARDS TRIPLE ",
  "DASH ARROWÀRIGHTWARDS TRIPLE DASH ARROWÌWO-HEADED TRIPLE DASH ARROWËARROW WITH DOTTED STEMÀUPWAR",
  "DS ARROW TO BARÀDOWNWARDS ARROW TO BARÀRIGHTWARDS ARROW WITH TAIL WITH VERTICAL STROKEàDOUBLE VE",
  "RTICAL STROKEËTWO-HEADED ARROW WITH TAILå WITH VERTICAL STROKEëDOUBLE VERTICAL STROKEÀLEFTWARDS ",
  "ARROW-TAILÀRIGHTWARDS ARROW-TAILÀLEFTWARDS DOUBLE ARROW-TAILÀRIGHTWARDS DOUBLE ARROW-TAILÀLEFTWA",
  "RDS ARROW TO BLACK DIAMONDÀRIGHTWARDS ARROW TO BLACK DIAMONDÀLEFTWARDS ARROW FROM BAR TO BLACK D",
  "IAMONDÀRIGHTWARDS ARROW FROM BAR TO BLACK DIAMONDÀNORTH WEST AND SOUTH EAST ARROWÆEAST AND SOUTH ",
  "WEST ARROWÆWEST ARROW WITH HOOKÆEAST ARROW WITH HOOKÀSOUTH EAST ARROW WITH HOOKÆWEST ARROW WITH ",
  "HOOKÀNORTH WEST ARROW AND NORTH EAST ARROWÆEAST ARROW AND SOUTH EAST ARROWÀSOUTH EAST ARROW AND ",
  "SOUTH WEST ARROWÆWEST ARROW AND NORTH WEST ARROWÀRISING DIAGONAL CROSSING FALLING DIAGONALÀFALLI",
  "NG DIAGONAL CROSSING RISING DIAGONALÀSOUTH EAST ARROW CROSSING NORTH EAST ARROWÀNORTH EAST ARROW ",
  "CROSSING SOUTH EAST ARROWÀFALLING DIAGONAL CROSSING NORTH EAST ARROWÀRISING DIAGONAL CROSSING SO",
  "UTH EAST ARROWÀNORTH EAST ARROW CROSSING NORTH WEST ARROWÆWEST ARROW CROSSING NORTH EAST ARROWÀW",
  "AVE ARROW POINTING DIRECTLY RIGHTÀARROW POINTING RIGHTWARDS THEN CURVING UPWARDSçDOWNWARDSÏDOWNW",
  "ARDS THEN CURVING LEFTWARDSæRIGHTWARDSÀRIGHT-SIDE ARC CLOCKWISE ARROWÀLEFT-SIDE ARC ANTICLOCKWIS",
  "E ARROWÀTOP ARC ANTICLOCKWISE ARROWÀBOTTOM ARC ANTICLOCKWISE ARROWÀTOP ARC CLOCKWISE ARROW WITH ",
  "MINUSÈANTICLOCKWISE ARROW WITH PLUSÀLOWER RIGHT SEMICIRCULAR CLOCKWISE ARROWÆLEFT SEMICIRCULAR A",
  "NTICLOCKWISE ARROWÀANTICLOCKWISE CLOSED CIRCLE ARROWÀCLOCKWISE CLOSED CIRCLE ARROWÀRIGHTWARDS AR",
  "ROW ABOVE SHORT LEFTWARDS ARROWÀLEFTWARDS ARROW ABOVE SHORT RIGHTWARDS ARROWÀSHORT RIGHTWARDS AR",
  "ROW ABOVE LEFTWARDS ARROWÀRIGHTWARDS ARROW WITH PLUS BELOWÀLEFTWARDS ARROW WITH PLUS BELOWÀRIGHT",
  "WARDS ARROW THROUGH XÀLEFT RIGHT ARROW THROUGH SMALL CIRCLEÀUPWARDS TWO-HEADED ARROW FROM SMALL ",
  "CIRCLEÀLEFT BARB UP RIGHT BARB DOWN HARPOONÊDOWN RIGHT BARB UP HARPOONÀUP BARB RIGHT DOWN BARB L",
  "EFT HARPOONÈLEFT DOWN BARB RIGHT HARPOONÀLEFT BARB UP RIGHT BARB UP HARPOONÀUP BARB RIGHT DOWN B",
  "ARB RIGHT HARPOONÀLEFT BARB DOWN RIGHT BARB DOWN HARPOONÀUP BARB LEFT DOWN BARB LEFT HARPOONÀLEF",
  "TWARDS HARPOON WITH BARB UP TO BARÀRIGHTWARDS HARPOON WITH BARB UP TO BARÀUPWARDS HARPOON WITH B",
  "ARB RIGHT TO BARÀDOWNWARDS HARPOON WITH BARB RIGHT TO BARÀLEFTWARDS HARPOON WITH BARB DOWN TO BA",
  "RÀRIGHTWARDS HARPOON WITH BARB DOWN TO BARÀUPWARDS HARPOON WITH BARB LEFT TO BARÀDOWNWARDS HARPO",
  "ON WITH BARB LEFT TO BARÀLEFTWARDS HARPOON WITH BARB UP FROM BARÀRIGHTWARDS HARPOON WITH BARB UP ",
  "FROM BARÀUPWARDS HARPOON WITH BARB RIGHT FROM BARÀDOWNWARDS HARPOON WITH BARB RIGHT FROM BARÀLEF",
  "TWARDS HARPOON WITH BARB DOWN FROM BARÀRIGHTWARDS HARPOON WITH BARB DOWN FROM BARÀUPWARDS HARPOO",
  "N WITH BARB LEFT FROM BARÀDOWNWARDS HARPOON WITH BARB LEFT FROM BARÀLEFTWARDS HARPOON WITH BARB ",
  "UP ABOVE LEFTWARDS HARPOON WITH BARB DOWNÀUPWARDS HARPOON WITH BARB LEFT BESIDE UPWARDS HARPOON ",
  "WITH BARB RIGHTÀRIGHTWARDS HARPOON WITH BARB UP ABOVE RIGHTWARDS HARPOON WITH BARB DOWNÀDOWNWARD",
  "S HARPOON WITH BARB LEFT BESIDE DOWNWARDS HARPOON WITH BARB RIGHTÀLEFTWARDS HARPOON WITH BARB UP ",
  "ABOVE RIGHTWARDS HARPOON WITH BARB UPÜDOWN ABOVE RIGHTWARDS HARPOON WITH BARB DOWNÀRIGHTWARDS HA",
  "RPOON WITH BARB UP ABOVE LEFTWARDS HARPOON WITH BARB UPÝDOWN ABOVE LEFTWARDS HARPOON WITH BARB D",
  "OWNÀLEFTWARDS HARPOON WITH BARB UP ABOVE LONG DASHÜDOWN BELOW LONG DASHÀRIGHTWARDS HARPOON WITH ",
  "BARB UP ABOVE LONG DASHÝDOWN BELOW LONG DASHÀUPWARDS HARPOON WITH BARB LEFT BESIDE DOWNWARDS HAR",
  "POON WITH BARB RIGHTÀDOWNWARDS HARPOON WITH BARB LEFT BESIDE UPWARDS HARPOON WITH BARB RIGHTÀRIG",
  "HT DOUBLE ARROW WITH ROUNDED HEADÀEQUALS SIGN ABOVE RIGHTWARDS ARROWÀTILDE OPERATOR ABOVE RIGHTW",
  "ARDS ARROWÀLEFTWARDS ARROW ABOVE TILDE OPERATORÀRIGHTWARDS ARROW ABOVE TILDE OPERATOR×ALMOST EQU",
  "AL TOÀLESS-THAN ABOVE LEFTWARDS ARROWÂFTWARDS ARROW THROUGH LESS-THANÀGREATER-THAN ABOVE RIGHTWA",
  "RDS ARROWÀSUBSET ABOVE RIGHTWARDS ARROWÀLEFTWARDS ARROW THROUGH SUBSETÀSUPERSET ABOVE LEFTWARDS ",
  "ARROWÀLEFT FISH TAILÀRIGHT FISH TAILÀUP FISH TAILÀDOWN FISH TAILÀTRIPLE VERTICAL BAR DELIMITERÀZ ",
  "NOTATION SPOTËTYPE COLONÀLEFT WHITE CURLY BRACKETÀRIGHT WHITE CURLY BRACKETÀLEFT WHITE PARENTHES",
  "ISÀRIGHT WHITE PARENTHESISÀZ NOTATION LEFT IMAGE BRACKETËRIGHT IMAGE BRACKETËLEFT BINDING BRACKE",
  "TËRIGHT BINDING BRACKETÀLEFT SQUARE BRACKET WITH UNDERBARÀRIGHT SQUARE BRACKET WITH UNDERBARÀLEF",
  "T SQUARE BRACKET WITH TICK IN TOP CORNERÀRIGHT SQUARE BRACKET WITH TICK IN BOTTOM CORNERÀLEFT SQ",
  "UARE BRACKET WITH TICK IN BOTTOM CORNERÀRIGHT SQUARE BRACKET WITH TICK IN TOP CORNERÀLEFT ANGLE ",
  "BRACKET WITH DOTÀRIGHT ANGLE BRACKET WITH DOTÀLEFT ARC LESS-THAN BRACKETÀRIGHT ARC GREATER-THAN ",
  "BRACKETÀDOUBLE LEFT ARC GREATER-THAN BRACKETÇRIGHT ARC LESS-THAN BRACKETÀLEFT BLACK TORTOISE SHE",
  "LL BRACKETÀRIGHT BLACK TORTOISE SHELL BRACKETÀDOTTED FENCEÀVERTICAL ZIGZAG LINEÀMEASURED ANGLE O",
  "PENING LEFTÀRIGHT ANGLE VARIANT WITH SQUAREÀMEASURED RIGHT ANGLE WITH DOTÀANGLE WITH S INSIDEÁCU",
  "TE ANGLEÀSPHERICAL ANGLE OPENING LEFTØUPÀTURNED ANGLEÀREVERSED ANGLEÀANGLE WITH UNDERBARÀREVERSE",
  "D ANGLE WITH UNDERBARÀOBLIQUE ANGLE OPENING UPÖDOWNÀMEASURED ANGLE WITH OPEN ARM ENDING IN ARROW ",
  "POINTING UP AND RIGHTýLEFTöDOWN AND RIGHTÿLEFTöRIGHT AND UPöLEFT AND UPöRIGHT AND DOWNöLEFT AND ",
  "DOWNÀREVERSED EMPTY SETÀEMPTY SET WITH OVERBARÏSMALL CIRCLE ABOVEÏRIGHT ARROW ABOVEÏLEFT ARROW A",
  "BOVEÀCIRCLE WITH HORIZONTAL BARÆD VERTICAL BARÈPARALLELÈREVERSE SOLIDUSÈPERPENDICULARÆ DIVIDED B",
  "Y HORIZONTAL BAR AND TOP HALF DIVIDED BY VERTICAL BARÇWITH SUPERIMPOSED XÆD ANTICLOCKWISE-ROTATE",
  "D DIVISION SIGNÀUP ARROW THROUGH CIRCLEÀCIRCLED WHITE BULLETÈBULLETÈLESS-THANÈGREATER-THANÆ WITH ",
  "SMALL CIRCLE TO THE RIGHTÌTWO HORIZONTAL STROKES TO THE RIGHTÀSQUARED RISING DIAGONAL SLASHÈFALL",
  "ING DIAGONAL SLASHÈASTERISKÈSMALL CIRCLEÉQUAREÀTWO JOINED SQUARESÁRIANGLE WITH DOT ABOVEÎUNDERBA",
  "RÀS IN TRIANGLEÀTRIANGLE WITH SERIFS AT BOTTOMÀRIGHT TRIANGLE ABOVE LEFT TRIANGLEÀLEFT TRIANGLE ",
  "BESIDE VERTICAL BARÀVERTICAL BAR BESIDE RIGHT TRIANGLEÀBOWTIE WITH LEFT HALF BLACKÌRIGHT HALF BL",
  "ACKÁLACK BOWTIEÀTIMES WITH LEFT HALF BLACKËRIGHT HALF BLACKÀWHITE HOURGLASSÀBLACK HOURGLASSÀLEFT ",
  "WIGGLY FENCEÀRIGHT WIGGLY FENCEÀLEFT DOUBLE WIGGLY FENCEÀRIGHT DOUBLE WIGGLY FENCEÀINCOMPLETE IN",
  "FINITYÀTIE OVER INFINITYÀINFINITY NEGATED WITH VERTICAL BARÀDOUBLE-ENDED MULTIMAPÀSQUARE WITH CO",
  "NTOURED OUTLINEÀINCREASES ASÀSHUFFLE PRODUCTÀEQUALS SIGN AND SLANTED PARALLELà WITH TILDE ABOVEÀ",
  "IDENTICAL TO AND SLANTED PARALLELÀGLEICH STARKÀTHERMODYNAMICÀDOWN-POINTING TRIANGLE WITH LEFT HA",
  "LF BLACKÜRIGHT HALF BLACKÀBLACK DIAMOND WITH DOWN ARROWÆLOZENGEÀWHITE CIRCLE WITH DOWN ARROWÀBLA",
  "CK CIRCLE WITH DOWN ARROWÀERROR-BARRED WHITE SQUAREÍBLACK SQUAREÍWHITE DIAMONDÍBLACK DIAMONDÍWHI",
  "TE CIRCLEÍBLACK CIRCLEÀRULE-DELAYEDÁEVERSE SOLIDUS OPERATORÀSOLIDUS WITH OVERBARÀREVERSE SOLIDUS ",
  "WITH HORIZONTAL STROKEÀBIG SOLIDUSÄREVERSE SOLIDUSÀDOUBLE PLUSÀTRIPLE PLUSÀLEFT-POINTING CURVED ",
  "ANGLE BRACKETÀRIGHT-POINTING CURVED ANGLE BRACKETÀTINYÀMINYÀN-ARY CIRCLED DOT OPERATORÎPLUS OPER",
  "ATORÎTIMES OPERATORÆUNION OPERATOR WITH DOTÚPLUSÆSQUARE INTERSECTION OPERATORÍUNION OPERATORÀTWO ",
  "LOGICAL AND OPERATORÌOR OPERATORÀN-ARY TIMES OPERATORÀMODULO TWO SUMÀSUMMATION WITH INTEGRALÀQUA",
  "DRUPLE INTEGRAL OPERATORÀFINITE PART INTEGRALÀINTEGRAL WITH DOUBLE STROKEÉAVERAGE WITH SLASHÀCIR",
  "CULATION FUNCTIONÀANTICLOCKWISE INTEGRATIONÀLINE INTEGRATION WITH RECTANGULAR PATH AROUND POLEÖS",
  "EMICIRCULAR PATH AROUND POLEÑNOT INCLUDING THE POLEÀINTEGRAL AROUND A POINT OPERATORÀQUATERNION ",
  "INTEGRAL OPERATORÀINTEGRAL WITH LEFTWARDS ARROW WITH HOOKÎTIMES SIGNÎINTERSECTIONÎUNIONÎOVERBARÎ",
  "UNDERBARÀJOINÀLARGE LEFT TRIANGLE OPERATORÀZ NOTATION SCHEMA COMPOSITIONÒPIPINGÓROJECTIONÀPLUS S",
  "IGN WITH SMALL CIRCLE ABOVEÏCIRCUMFLEX ACCENT ABOVEÏTILDE ABOVEÏDOT BELOWÏTILDE BELOWÏSUBSCRIPT ",
  "TWOÏBLACK TRIANGLEÀMINUS SIGN WITH COMMA ABOVEÐDOT BELOWÐFALLING DOTSÐRISING DOTSÀPLUS SIGN IN L",
  "EFT HALF CIRCLEÍRIGHT HALF CIRCLEÀVECTOR OR CROSS PRODUCTÀMULTIPLICATION SIGN WITH DOT ABOVEÙUND",
  "ERBARÀSEMIDIRECT PRODUCT WITH BOTTOM CLOSEDÁMASH PRODUCTÀMULTIPLICATION SIGN IN LEFT HALF CIRCLE",
  "×RIGHT HALF CIRCLEÀCIRCLED MULTIPLICATION SIGN WITH CIRCUMFLEX ACCENTÀMULTIPLICATION SIGN IN DOU",
  "BLE CIRCLEÀCIRCLED DIVISION SIGNÀPLUS SIGN IN TRIANGLEÀMINUS SIGN IN TRIANGLEÁULTIPLICATION SIGN ",
  "IN TRIANGLEÀINTERIOR PRODUCTÀRIGHTHAND INTERIOR PRODUCTÀZ NOTATION RELATIONAL COMPOSITIONÀAMALGA",
  "MATION OR COPRODUCTÀINTERSECTION WITH DOTÀUNION WITH MINUS SIGNËOVERBARÀINTERSECTION WITH OVERBA",
  "RÒLOGICAL ANDÀUNION WITH LOGICAL ORÆABOVE INTERSECTIONÀINTERSECTION ABOVE UNIONÀUNION ABOVE BAR ",
  "ABOVE INTERSECTIONÀINTERSECTION ABOVE BAR ABOVE UNIONÀUNION BESIDE AND JOINED WITH UNIONÀINTERSE",
  "CTION BESIDE AND JOINED WITH INTERSECTIONÀCLOSED UNION WITH SERIFSÇINTERSECTION WITH SERIFSÀDOUB",
  "LE SQUARE INTERSECTIONÎUNIONÀCLOSED UNION WITH SERIFS AND SMASH PRODUCTÀLOGICAL AND WITH DOT ABO",
  "VEÈOR WITH DOT ABOVEÀDOUBLE LOGICAL ANDÏORÀTWO INTERSECTING LOGICAL ANDÙORÀSLOPING LARGE ORÎANDÀ",
  "LOGICAL OR OVERLAPPING LOGICAL ANDÈAND WITH MIDDLE STEMÈOR WITH MIDDLE STEMÈAND WITH HORIZONTAL ",
  "DASHÈOR WITH HORIZONTAL DASHÈAND WITH DOUBLE OVERBARÑUNDERBARÑDOUBLE UNDERBARÀSMALL VEE WITH UND",
  "ERBARÀLOGICAL OR WITH DOUBLE OVERBAR×UNDERBARÀZ NOTATION DOMAIN ANTIRESTRICTIONËRANGE ANTIRESTRI",
  "CTIONÀEQUALS SIGN WITH DOT BELOWÀIDENTICAL WITH DOT ABOVEÀTRIPLE HORIZONTAL BAR WITH DOUBLE VERT",
  "ICAL STROKEÛTRIPLE VERTICAL STROKEÁILDE OPERATOR WITH DOT ABOVEÔRISING DOTSÀSIMILAR MINUS SIMILA",
  "RÀCONGRUENT WITH DOT ABOVEÀEQUALS WITH ASTERISKÀALMOST EQUAL TO WITH CIRCUMFLEX ACCENTÁPPROXIMAT",
  "ELY EQUAL OR EQUAL TOÀEQUALS SIGN ABOVE PLUS SIGNÀPLUS SIGN ABOVE EQUALS SIGNÀEQUALS SIGN ABOVE ",
  "TILDE OPERATORÀDOUBLE COLON EQUALÀTWO CONSECUTIVE EQUALS SIGNSÁHREE CONSECUTIVE EQUALS SIGNSÀEQU",
  "ALS SIGN WITH TWO DOTS ABOVE AND TWO DOTS BELOWÃIVALENT WITH FOUR DOTS ABOVEÀLESS-THAN WITH CIRC",
  "LE INSIDEÀGREATER-THAN WITH CIRCLE INSIDEÀLESS-THAN WITH QUESTION MARK ABOVEÀGREATER-THAN WITH Q",
  "UESTION MARK ABOVEÀLESS-THAN OR SLANTED EQUAL TOÀGREATER-THAN OR SLANTED EQUAL TOÀLESS-THAN OR S",
  "LANTED EQUAL TO WITH DOT INSIDEÀGREATER-THAN OR SLANTED EQUAL TO WITH DOT INSIDEÀLESS-THAN OR SL",
  "ANTED EQUAL TO WITH DOT ABOVEÀGREATER-THAN OR SLANTED EQUAL TO WITH DOT ABOVEÀLESS-THAN OR SLANT",
  "ED EQUAL TO WITH DOT ABOVE RIGHTÀGREATER-THAN OR SLANTED EQUAL TO WITH DOT ABOVE LEFTÀLESS-THAN ",
  "OR APPROXIMATEÀGREATER-THAN OR APPROXIMATEÀLESS-THAN AND SINGLE-LINE NOT EQUAL TOÀGREATER-THAN A",
  "ND SINGLE-LINE NOT EQUAL TOÀLESS-THAN AND NOT APPROXIMATEÀGREATER-THAN AND NOT APPROXIMATEÀLESS-",
  "THAN ABOVE DOUBLE-LINE EQUAL ABOVE GREATER-THANÀGREATER-THAN ABOVE DOUBLE-LINE EQUAL ABOVE LESS-",
  "THANÀLESS-THAN ABOVE SIMILAR OR EQUALÀGREATER-THAN ABOVE SIMILAR OR EQUALÀLESS-THAN ABOVE SIMILA",
  "R ABOVE GREATER-THANÀGREATER-THAN ABOVE SIMILAR ABOVE LESS-THANÀLESS-THAN ABOVE GREATER-THAN ABO",
  "VE DOUBLE-LINE EQUALÀGREATER-THAN ABOVE LESS-THAN ABOVE DOUBLE-LINE EQUALÀLESS-THAN ABOVE SLANTE",
  "D EQUAL ABOVE GREATER-THAN ABOVE SLANTED EQUALÀGREATER-THAN ABOVE SLANTED EQUAL ABOVE LESS-THAN ",
  "ABOVE SLANTED EQUALÀSLANTED EQUAL TO OR LESS-THANÔGREATER-THANÔLESS-THAN WITH DOT INSIDEÔGREATER",
  "-THAN WITH DOT INSIDEÀDOUBLE-LINE EQUAL TO OR LESS-THANØGREATER-THANÌSLANTED EQUAL TO OR LESS-TH",
  "ANàGREATER-THANÀSIMILAR OR LESS-THANËGREATER-THANÈABOVE LESS-THAN ABOVE EQUALS SIGNÎGREATER-THAN ",
  "ABOVE EQUALS SIGNÀDOUBLE NESTED LESS-THANÎGREATER-THANÎLESS-THAN WITH UNDERBARÀGREATER-THAN OVER",
  "LAPPING LESS-THANÍBESIDE LESS-THANÀLESS-THAN CLOSED BY CURVEÀGREATER-THAN CLOSED BY CURVEÀLESS-T",
  "HAN CLOSED BY CURVE ABOVE SLANTED EQUALÀGREATER-THAN CLOSED BY CURVE ABOVE SLANTED EQUALÀSMALLER ",
  "THANÀLARGER THANÀSMALLER THAN OR EQUAL TOÀLARGER THAN OR EQUAL TOÀEQUALS SIGN WITH BUMPY ABOVEÀP",
  "RECEDES ABOVE SINGLE-LINE EQUALS SIGNÀSUCCEEDS ABOVE SINGLE-LINE EQUALS SIGNÀPRECEDES ABOVE SING",
  "LE-LINE NOT EQUAL TOÀSUCCEEDS ABOVE SINGLE-LINE NOT EQUAL TOÀPRECEDES ABOVE EQUALS SIGNÀSUCCEEDS ",
  "ABOVE EQUALS SIGNÀPRECEDES ABOVE NOT EQUAL TOÀSUCCEEDS ABOVE NOT EQUAL TOÀPRECEDES ABOVE ALMOST ",
  "EQUAL TOÀSUCCEEDS ABOVE ALMOST EQUAL TOÀPRECEDES ABOVE NOT ALMOST EQUAL TOÀSUCCEEDS ABOVE NOT AL",
  "MOST EQUAL TOÀDOUBLE PRECEDESÇSUCCEEDSÀSUBSET WITH DOTÂPERSET WITH DOTÂBSET WITH PLUS SIGN BELOW",
  "ÂPERSET WITH PLUS SIGN BELOWÂBSET WITH MULTIPLICATION SIGN BELOWÂPERSET WITH MULTIPLICATION SIGN ",
  "BELOWÂBSET OF OR EQUAL TO WITH DOT ABOVEÂPERSET OF OR EQUAL TO WITH DOT ABOVEÂBSET OF ABOVE EQUA",
  "LS SIGNÂPERSET OF ABOVE EQUALS SIGNÂBSET OF ABOVE TILDE OPERATORÂPERSET OF ABOVE TILDE OPERATORÂ",
  "BSET OF ABOVE ALMOST EQUAL TOÂPERSET OF ABOVE ALMOST EQUAL TOÂBSET OF ABOVE NOT EQUAL TOÂPERSET ",
  "OF ABOVE NOT EQUAL TOÁQUARE LEFT OPEN BOX OPERATORÇRIGHT OPEN BOX OPERATORÀCLOSED SUBSETÉPERSETÉ",
  "BSET OR EQUAL TOÉPERSET OR EQUAL TOÀSUBSET ABOVE SUPERSETÂPERSET ABOVE SUBSETÂBSET ABOVE SUBSETÂ",
  "PERSET ABOVE SUPERSETÉBESIDE SUBSETÐAND JOINED BY DASH WITH SUBSETÀELEMENT OF OPENING DOWNWARDSÀ",
  "PITCHFORK WITH TEE TOPÀTRANSVERSAL INTERSECTIONÀFORKINGÀNONFORKINGÀSHORT LEFT TACKÆDOWN TACKÆUP ",
  "TACKÀPERPENDICULAR WITH SÀVERTICAL BAR TRIPLE RIGHT TURNSTILEÀDOUBLE VERTICAL BAR LEFT TURNSTILE",
  "ÀVERTICAL BAR DOUBLE LEFT TURNSTILEÀDOUBLE VERTICAL BAR DOUBLE LEFT TURNSTILEÀLONG DASH FROM LEF",
  "T MEMBER OF DOUBLE VERTICALÀSHORT DOWN TACK WITH OVERBARÆUP TACK WITH UNDERBARÎABOVE SHORT DOWN ",
  "TACKÀDOUBLE DOWN TACKÇUP TACKÇSTROKE NOT SIGNÀREVERSED DOUBLE STROKE NOT SIGNÀDOES NOT DIVIDE WI",
  "TH REVERSED NEGATION SLASHÀVERTICAL LINE WITH CIRCLE ABOVEÚBELOWÀDOWN TACK WITH CIRCLE BELOWÀPAR",
  "ALLEL WITH HORIZONTAL STROKEÎTILDE OPERATORÀTRIPLE VERTICAL BAR BINARY RELATIONÔWITH HORIZONTAL ",
  "STROKEÇCOLON OPERATORÇNESTED LESS-THANÎGREATER-THANÀDOUBLE-LINE SLANTED LESS-THAN OR EQUAL TOÔGR",
  "EATER-THAN OR EQUAL TOÀTRIPLE SOLIDUS BINARY RELATIONÀLARGE TRIPLE VERTICAL BAR OPERATORÀDOUBLE ",
  "SOLIDUS OPERATORÀWHITE VERTICAL BARÀN-ARY WHITE VERTICAL BARÁORTH EAST WHITE ARROWÆWEST WHITE AR",
  "ROWÀSOUTH EAST WHITE ARROWÆWEST WHITE ARROWÀLEFT RIGHT WHITE ARROWÄWARDS BLACK ARROWÀUPWARDS BLA",
  "CK ARROWÀDOWNWARDS BLACK ARROWÀNORTH EAST BLACK ARROWÆWEST BLACK ARROWÀSOUTH EAST BLACK ARROWÆWE",
  "ST BLACK ARROWÀLEFT RIGHT BLACK ARROWÀUP DOWN BLACK ARROWÀRIGHTWARDS ARROW WITH TIP DOWNWARDSÚUP",
  "WARDSÀLEFTWARDS ARROW WITH TIP DOWNWARDSÙUPWARDSÀSQUARE WITH TOP HALF BLACKÌBOTTOM HALF BLACKÌUP",
  "PER RIGHT DIAGONAL HALF BLACKÌLOWER LEFT DIAGONAL HALF BLACKÀDIAMOND WITH LEFT HALF BLACKÍRIGHT ",
  "HALF BLACKÍTOP HALF BLACKÍBOTTOM HALF BLACKÁOTTED SQUAREÀBLACK LARGE SQUAREÀWHITE LARGE SQUAREÀB",
  "LACK VERY SMALL SQUAREÀWHITE VERY SMALL SQUAREÀBLACK PENTAGONÀWHITE PENTAGONÆHEXAGONÀBLACK HEXAG",
  "ONÀHORIZONTAL BLACK HEXAGONÀBLACK LARGE CIRCLEÆMEDIUM DIAMONDÀWHITE MEDIUM DIAMONDÀBLACK MEDIUM ",
  "LOZENGEÀWHITE MEDIUM LOZENGEÀBLACK SMALL DIAMONDÌLOZENGEÀWHITE SMALL LOZENGEÀBLACK HORIZONTAL EL",
  "LIPSEÀWHITE HORIZONTAL ELLIPSEÀBLACK VERTICAL ELLIPSEÀWHITE VERTICAL ELLIPSEÀLEFT ARROW WITH SMA",
  "LL CIRCLEÀTHREE LEFTWARDS ARROWSÀLEFT ARROW WITH CIRCLED PLUSÁONG LEFTWARDS SQUIGGLE ARROWÁEFTWA",
  "RDS TWO-HEADED ARROW WITH VERTICAL STROKEàDOUBLE VERTICAL STROKEÛFROM BARÕTRIPLE DASH ARROWÊARRO",
  "W WITH DOTTED STEMÕTAIL WITH VERTICAL STROKEßDOUBLE VERTICAL STROKEÊTWO-HEADED ARROW WITH TAILä ",
  "WITH VERTICAL STROKEêDOUBLE VERTICAL STROKEÊARROW THROUGH XÀWAVE ARROW POINTING DIRECTLY LEFTÀEQ",
  "UALS SIGN ABOVE LEFTWARDS ARROWÀREVERSE TILDE OPERATOR ABOVE LEFTWARDS ARROWÀLEFTWARDS ARROW ABO",
  "VE REVERSE ALMOST EQUAL TOÀRIGHTWARDS ARROW THROUGH GREATER-THANÙSUPERSETÀLEFTWARDS QUADRUPLE AR",
  "ROWÀRIGHTWARDS QUADRUPLE ARROWÁEVERSE TILDE OPERATOR ABOVE RIGHTWARDS ARROWÁIGHTWARDS ARROW ABOV",
  "E REVERSE ALMOST EQUAL TOÀTILDE OPERATOR ABOVE LEFTWARDS ARROWÀLEFTWARDS ARROW ABOVE ALMOST EQUA",
  "L TOÖREVERSE TILDE OPERATORÀRIGHTWARDS ARROW ABOVE REVERSE TILDE OPERATORÀDOWNWARDS TRIANGLE-HEA",
  "DED ZIGZAG ARROWÀSHORT SLANTED NORTH ARROWÆBACKSLANTED SOUTH ARROWÀWHITE MEDIUM STARÀBLACK SMALL ",
  "STARÀWHITE SMALL STARÀBLACK RIGHT-POINTING PENTAGONÀWHITE RIGHT-POINTING PENTAGONÀHEAVY LARGE CI",
  "RCLEÆOVAL WITH OVAL INSIDEÆCIRCLE WITH CIRCLE INSIDEÌÌD SALTIREÀSLANTED NORTH ARROW WITH HOOKED ",
  "HEADÀBACKSLANTED SOUTH ARROW WITH HOOKED TAILÀSLANTED NORTH ARROW WITH HORIZONTAL TAILÀBACKSLANT",
  "ED SOUTH ARROW WITH HORIZONTAL TAILÁENT ARROW POINTING DOWNWARDS THEN NORTH EASTÀSHORT BENT ARRO",
  "W POINTING DOWNWARDS THEN NORTH EASTÀLEFTWARDS TRIANGLE-HEADED ARROWÀUPWARDS TRIANGLE-HEADED ARR",
  "OWÀRIGHTWARDS TRIANGLE-HEADED ARROWÀDOWNWARDS TRIANGLE-HEADED ARROWÀLEFT RIGHT TRIANGLE-HEADED A",
  "RROWÀUP DOWN TRIANGLE-HEADED ARROWÀNORTH WEST TRIANGLE-HEADED ARROWÆEAST TRIANGLE-HEADED ARROWÀS",
  "OUTH EAST TRIANGLE-HEADED ARROWÆWEST TRIANGLE-HEADED ARROWÀLEFTWARDS TRIANGLE-HEADED DASHED ARRO",
  "WÀUPWARDS TRIANGLE-HEADED DASHED ARROWÀRIGHTWARDS TRIANGLE-HEADED DASHED ARROWÀDOWNWARDS TRIANGL",
  "E-HEADED DASHED ARROWÀCLOCKWISE TRIANGLE-HEADED OPEN CIRCLE ARROWÀANTICLOCKWISE TRIANGLE-HEADED ",
  "OPEN CIRCLE ARROWÀLEFTWARDS TRIANGLE-HEADED ARROW TO BARÀUPWARDS TRIANGLE-HEADED ARROW TO BARÀRI",
  "GHTWARDS TRIANGLE-HEADED ARROW TO BARÀDOWNWARDS TRIANGLE-HEADED ARROW TO BAR#2B76ÀNORTH WEST TRI",
  "ANGLE-HEADED ARROW TO BARÆEAST TRIANGLE-HEADED ARROW TO BARÀSOUTH EAST TRIANGLE-HEADED ARROW TO ",
  "BARÆWEST TRIANGLE-HEADED ARROW TO BARÀLEFTWARDS TRIANGLE-HEADED ARROW WITH DOUBLE HORIZONTAL STR",
  "OKEÀUPWARDS TRIANGLE-HEADED ARROW WITH DOUBLE HORIZONTAL STROKEÀRIGHTWARDS TRIANGLE-HEADED ARROW ",
  "WITH DOUBLE HORIZONTAL STROKEÀDOWNWARDS TRIANGLE-HEADED ARROW WITH DOUBLE HORIZONTAL STROKEÀHORI",
  "ZONTAL TAB KEYÀVERTICAL TAB KEYÀLEFTWARDS TRIANGLE-HEADED ARROW OVER RIGHTWARDS TRIANGLE-HEADED ",
  "ARROWÀUPWARDS TRIANGLE-HEADED ARROW LEFTWARDS OF DOWNWARDS TRIANGLE-HEADED ARROWÀRIGHTWARDS TRIA",
  "NGLE-HEADED ARROW OVER LEFTWARDS TRIANGLE-HEADED ARROWÀDOWNWARDS TRIANGLE-HEADED ARROW LEFTWARDS ",
  "OF UPWARDS TRIANGLE-HEADED ARROWÀLEFTWARDS TRIANGLE-HEADED PAIRED ARROWSÀUPWARDS TRIANGLE-HEADED ",
  "PAIRED ARROWSÀRIGHTWARDS TRIANGLE-HEADED PAIRED ARROWSÀDOWNWARDS TRIANGLE-HEADED PAIRED ARROWSÀL",
  "EFTWARDS BLACK CIRCLED WHITE ARROWÀUPWARDS BLACK CIRCLED WHITE ARROWÀRIGHTWARDS BLACK CIRCLED WH",
  "ITE ARROWÀDOWNWARDS BLACK CIRCLED WHITE ARROWÀANTICLOCKWISE TRIANGLE-HEADED RIGHT U-SHAPED ARROW",
  "ÞBOTTOM U-SHAPED ARROWÞLEFT U-SHAPED ARROWÞTOP U-SHAPED ARROWÀRETURN LEFTÇRIGHTÀNEWLINE LEFTÈRIG",
  "HTÀFOUR CORNER ARROWS CIRCLING ANTICLOCKWISEÀRIGHTWARDS BLACK ARROW#2B97ÀSYMBOL FOR TYPE A ELECT",
  "RONICSÀTHREE-D TOP-LIGHTED LEFTWARDS EQUILATERAL ARROWHEADÈRIGHT-LIGHTED UPWARDS EQUILATERAL ARR",
  "OWHEADÈTOP-LIGHTED RIGHTWARDS EQUILATERAL ARROWHEADÈLEFT-LIGHTED DOWNWARDS EQUILATERAL ARROWHEAD",
  "ÀBLACK LEFTWARDS EQUILATERAL ARROWHEADÆUPWARDS EQUILATERAL ARROWHEADÆRIGHTWARDS EQUILATERAL ARRO",
  "WHEADÆDOWNWARDS EQUILATERAL ARROWHEADÀDOWNWARDS TRIANGLE-HEADED ARROW WITH LONG TIP LEFTWARDSîRI",
  "GHTWARDSÀUPWARDS TRIANGLE-HEADED ARROW WITH LONG TIP LEFTWARDSìRIGHTWARDSÀLEFTWARDS TRIANGLE-HEA",
  "DED ARROW WITH LONG TIP UPWARDSÀRIGHTWARDS TRIANGLE-HEADED ARROW WITH LONG TIP UPWARDSÀLEFTWARDS ",
  "TRIANGLE-HEADED ARROW WITH LONG TIP DOWNWARDSÀRIGHTWARDS TRIANGLE-HEADED ARROW WITH LONG TIP DOW",
  "NWARDSÀBLACK CURVED DOWNWARDS AND LEFTWARDS ARROWÛRIGHTWARDS ARROWÍUPWARDS AND LEFTWARDS ARROWÙR",
  "IGHTWARDS ARROWÍLEFTWARDS AND UPWARDS ARROWÍRIGHTWARDS AND UPWARDS ARROWÍLEFTWARDS AND DOWNWARDS ",
  "ARROWÍRIGHTWARDS AND DOWNWARDS ARROWÀRIBBON ARROW DOWN LEFTÒRIGHTÍUP LEFTÐRIGHTÍLEFT UPÍRIGHT UP",
  "ÍLEFT DOWNÍRIGHT DOWNÀUPWARDS WHITE ARROW FROM BAR WITH HORIZONTAL BARÂ ARROWHEAD IN A RECTANGLE ",
  "BOXÀOVERLAPPING WHITE SQUARESÒAND BLACK SQUARESÌBLACK SQUARESÀBALLOT BOX WITH LIGHT XÀCIRCLED XÈ",
  "BOLD XÀBLACK SQUARE CENTREDÆDIAMOND CENTREDÀTURNED BLACK PENTAGONÀHORIZONTAL BLACK OCTAGONÀBLACK ",
  "OCTAGONÆMEDIUM UP-POINTING TRIANGLE CENTREDÍDOWN-POINTING TRIANGLE CENTREDÍLEFT-POINTING TRIANGL",
  "E CENTREDÍRIGHT-POINTING TRIANGLE CENTREDÀNEPTUNE FORM TWOÀTOP HALF BLACK CIRCLEÀBOTTOM HALF BLA",
  "CK CIRCLEÀLIGHT FOUR POINTED BLACK CUSPÀROTATED LIGHT FOUR POINTED BLACK CUSPÀWHITE FOUR POINTED ",
  "CUSPÀROTATED WHITE FOUR POINTED CUSPÀSQUARE POSITION INDICATORÀUNCERTAINTY SIGNÀGROUP MARKÀPLUTO ",
  "FORM TWOÌHREEËFOURÌIVEÀTRANSPLUTOÀPROSERPINAÀASTRAEAÀHYGIEAÀPHOLUSÀNESSUSÀWHITE MOON SELENAÀBLAC",
  "K DIAMOND ON CROSSÀTRUE LIGHT MOON ARTAÀCUPIDOÀHADESÀZEUSÀKRONOSÀAPOLLONÁDMETOSÀVULCANUSÀPOSEIDO",
  "NÀLEFT HALF BLACK STARÀRIGHT HALF BLACK STARÀSTAR WITH LEFT HALF BLACKÊRIGHT HALF BLACKÀLEFTWARD",
  "S TWO-HEADED ARROW WITH TRIANGLE ARROWHEADSÀUPWARDS TWO-HEADED ARROW WITH TRIANGLE ARROWHEADSÀRI",
  "GHTWARDS TWO-HEADED ARROW WITH TRIANGLE ARROWHEADSÀDOWNWARDS TWO-HEADED ARROW WITH TRIANGLE ARRO",
  "WHEADSÀERIS FORM ONEÊTWOÀSEDNAÀRUSSIAN ASTROLOGICAL SYMBOL VIGINTILEÜNOVILEÜQUINTILEÜBINOVILEÜSE",
  "NTAGONÜTREDECILEÀEQUALS SIGN WITH INFINITY BELOWÀUNITED SYMBOLÀSEPARATED SYMBOLÀDOUBLED SYMBOLÀP",
  "ASSED SYMBOLÀREVERSED RIGHT ANGLEÀHELLSCHREIBER PAUSE SYMBOLÀGLAGOLITIC CAPITAL LETTER AZUÚBUKYÚ",
  "VEDEÚGLAGOLIÚDOBROÚYESTUÚZHIVETEÚDZELOÚZEMLJAÚIZHEÛNITIAL IZHEÛÚDJERVIÚKAKOÚLJUDIJEÚMYSLITEÚNASH",
  "IÚONUÚPOKOJIÚRITSIÚSLOVOÚTVRIDOÚUKUÚFRITUÚHERUÚOTUÚPEÚSHTAÚTSIÚCHRIVIÚSHAÚYERUÝIÛATIÚSPIDERY HAÚ",
  "YUÚSMALL YUSã WITH TAILÚYOÚIOTATED SMALL YUSÚBIG YUSÚIOTATED BIG YUSÚFITAÚIZHITSAÚSHTAPICÚTROKUT",
  "ASTI AÚLATINATE MYSLITEÚCAUDATE CHRIVIËSMALL LETTER AZUØBUKYØVEDEØGLAGOLIØDOBROØYESTUØZHIVETEØDZ",
  "ELOØZEMLJAØIZHEÙNITIAL IZHEÙØDJERVIØKAKOØLJUDIJEØMYSLITEØNASHIØONUØPOKOJIØRITSIØSLOVOØTVRIDOØUKU",
  "ØFRITUØHERUØOTUØPEØSHTAØTSIØCHRIVIØSHAØYERUÛIÙATIØSPIDERY HAØYUØSMALL YUSá WITH TAILØYOØIOTATED ",
  "SMALL YUSØBIG YUSØIOTATED BIG YUSØFITAØIZHITSAØSHTAPICØTROKUTASTI AØLATINATE MYSLITEØCAUDATE CHR",
  "IVIÀLATIN CAPITAL LETTER L WITH DOUBLE BARÆSMALL LETTER L WITH DOUBLE BARÆCAPITAL LETTER L WITH ",
  "MIDDLE TILDEÕP WITH STROKEÕR WITH TAILÆSMALL LETTER A WITH STROKEÓT WITH DIAGONAL STROKEÆCAPITAL ",
  "LETTER H WITH DESCENDERÆSMALL LETTER H WITH DESCENDERÆCAPITAL LETTER K WITH DESCENDERÆSMALL LETT",
  "ER K WITH DESCENDERÆCAPITAL LETTER Z WITH DESCENDERÆSMALL LETTER Z WITH DESCENDERÆCAPITAL LETTER ",
  "ALPHAÕM WITH HOOKÕTURNED AÝLPHAÆSMALL LETTER V WITH RIGHT HOOKÆCAPITAL LETTER W WITH HOOKÆSMALL ",
  "LETTER W WITH HOOKÓV WITH CURLÆCAPITAL LETTER HALF HÆSMALL LETTER HALF HÓTAILLESS PHIÓE WITH NOT",
  "CHÓTURNED R WITH TAILÓO WITH LOW RING INSIDEÆLETTER SMALL CAPITAL TURNED EÆSUBSCRIPT SMALL LETTE",
  "R JÀMODIFIER LETTER CAPITAL VÀLATIN CAPITAL LETTER S WITH SWASH TAILÕZ WITH SWASH TAILÀCOPTIC CA",
  "PITAL LETTER ALFAÇSMALL LETTER ALFAÇCAPITAL LETTER VIDAÇSMALL LETTER VIDAÇCAPITAL LETTER GAMMAÇS",
  "MALL LETTER GAMMAÇCAPITAL LETTER DALDAÇSMALL LETTER DALDAÇCAPITAL LETTER EIEÇSMALL LETTER EIEÇCA",
  "PITAL LETTER SOUÇSMALL LETTER SOUÇCAPITAL LETTER ZATAÇSMALL LETTER ZATAÇCAPITAL LETTER HATEÇSMAL",
  "L LETTER HATEÇCAPITAL LETTER THETHEÇSMALL LETTER THETHEÇCAPITAL LETTER IAUDAÇSMALL LETTER IAUDAÇ",
  "CAPITAL LETTER KAPAÇSMALL LETTER KAPAÇCAPITAL LETTER LAULAÇSMALL LETTER LAULAÇCAPITAL LETTER MIÇ",
  "SMALL LETTER MIÇCAPITAL LETTER NIÇSMALL LETTER NIÇCAPITAL LETTER KSIÇSMALL LETTER KSIÇCAPITAL LE",
  "TTER OÇSMALL LETTER OÇCAPITAL LETTER PIÇSMALL LETTER PIÇCAPITAL LETTER ROÇSMALL LETTER ROÇCAPITA",
  "L LETTER SIMAÇSMALL LETTER SIMAÇCAPITAL LETTER TAUÇSMALL LETTER TAUÇCAPITAL LETTER UAÇSMALL LETT",
  "ER UAÇCAPITAL LETTER FIÇSMALL LETTER FIÇCAPITAL LETTER KHIÇSMALL LETTER KHIÇCAPITAL LETTER PSIÇS",
  "MALL LETTER PSIÇCAPITAL LETTER OOUÇSMALL LETTER OOUÇCAPITAL LETTER DIALECT-P ALEFÇSMALL LETTER D",
  "IALECT-P ALEFÇCAPITAL LETTER OLD COPTIC AINÇSMALL LETTER OLD COPTIC AINÇCAPITAL LETTER CRYPTOGRA",
  "MMIC EIEÇSMALL LETTER CRYPTOGRAMMIC EIEÇCAPITAL LETTER DIALECT-P KAPAÇSMALL LETTER DIALECT-P KAP",
  "AÇCAPITAL LETTER DIALECT-P NIÇSMALL LETTER DIALECT-P NIÇCAPITAL LETTER CRYPTOGRAMMIC NIÇSMALL LE",
  "TTER CRYPTOGRAMMIC NIÇCAPITAL LETTER OLD COPTIC OOUÇSMALL LETTER OLD COPTIC OOUÇCAPITAL LETTER S",
  "AMPIÇSMALL LETTER SAMPIÇCAPITAL LETTER CROSSED SHEIÇSMALL LETTER CROSSED SHEIÇCAPITAL LETTER OLD ",
  "COPTIC SHEIÇSMALL LETTER OLD COPTIC SHEIÇCAPITAL LETTER OLD COPTIC ESHÇSMALL LETTER OLD COPTIC E",
  "SHÇCAPITAL LETTER AKHMIMIC KHEIÇSMALL LETTER AKHMIMIC KHEIÇCAPITAL LETTER DIALECT-P HORIÇSMALL L",
  "ETTER DIALECT-P HORIÇCAPITAL LETTER OLD COPTIC HORIÇSMALL LETTER OLD COPTIC HORIÇCAPITAL LETTER ",
  "OLD COPTIC HAÇSMALL LETTER OLD COPTIC HAÇCAPITAL LETTER L-SHAPED HAÇSMALL LETTER L-SHAPED HAÇCAP",
  "ITAL LETTER OLD COPTIC HEIÇSMALL LETTER OLD COPTIC HEIÇCAPITAL LETTER OLD COPTIC HATÇSMALL LETTE",
  "R OLD COPTIC HATÇCAPITAL LETTER OLD COPTIC GANGIAÇSMALL LETTER OLD COPTIC GANGIAÇCAPITAL LETTER ",
  "OLD COPTIC DJAÇSMALL LETTER OLD COPTIC DJAÇCAPITAL LETTER OLD COPTIC SHIMAÇSMALL LETTER OLD COPT",
  "IC SHIMAÇCAPITAL LETTER OLD NUBIAN SHIMAÇSMALL LETTER OLD NUBIAN SHIMAÇCAPITAL LETTER OLD NUBIAN ",
  "NGIÇSMALL LETTER OLD NUBIAN NGIÇCAPITAL LETTER OLD NUBIAN NYIÇSMALL LETTER OLD NUBIAN NYIÇCAPITA",
  "L LETTER OLD NUBIAN WAUÇSMALL LETTER OLD NUBIAN WAUÈYMBOL KAIÎMI ROÎPI ROÎSTAUROSÎTAU ROÎKHI ROÎ",
  "SHIMA SIMAÇCAPITAL LETTER CRYPTOGRAMMIC SHEIÇSMALL LETTER CRYPTOGRAMMIC SHEIÇCAPITAL LETTER CRYP",
  "TOGRAMMIC GANGIAÇSMALL LETTER CRYPTOGRAMMIC GANGIAÇCOMBINING NI ABOVEÑSPIRITUS ASPERÚLENISÈAPITA",
  "L LETTER BOHAIRIC KHEIÇSMALL LETTER BOHAIRIC KHEI#2CF9ÇOLD NUBIAN FULL STOPÒDIRECT QUESTION MARK",
  "ÒINDIRECT QUESTION MARKÒVERSE DIVIDERÇFRACTION ONE HALFÈULL STOPÇMORPHOLOGICAL DIVIDERÀGEORGIAN ",
  "SMALL LETTER ANÖBANÖGANÖDONÖENÖVINÖZENÖTANÖINÖKANÖLASÖMANÖNARÖONÖPARÖZHARÖRAEÖSANÖTARÖUNÖPHARÖKH",
  "ARÖGHANÖQARÖSHINÖCHIN×ANÖJILÖCIL×HARÖXANÖJHANÖHAE×E×IEÖWEÖHAR×OE#2D27ÖYN#2D2DÖAEN#2D30ÀTIFINAGH ",
  "LETTER YAÒBÓHÒGÓHHÐBERBER ACADEMY YAJÐYAJÒDÓHÓDÔHÑEYÑAFÒKÐTUAREG YAKÐYAKHHÒHÐBERBER ACADEMY YAHÐ",
  "TUAREG YAHÐYAHHÒAÒKHÐTUAREG YAKHÐYAQÐTUAREG YAQÐYIÑAZHÐAHAGGAR YAZHÐTUAREG YAZHÐYALÒMÒNÐTUAREG Y",
  "AGNÙNGÐYAPÑUÑARÓRÒGHÐTUAREG YAGHÐAYER YAGHÐYASÓSÓHÒTÓHÒCHÒTTÒVÒWÒYÒZÐTAWELLEMET YAZÐYAZZÑEÑO#2D6",
  "FÉMODIFIER LETTER LABIALIZATION MARKÉSEPARATOR MARK#2D7FÉCONSONANT JOINERÀETHIOPIC SYLLABLE LOAÒ",
  "MOAÒROAÒSOAÓHOAÒBOAÒTOAÒCOAÒNOAÓYOAÒGLOTTAL OAÒZOAÒDOAÓDOAÒJOAÒTHOAÒCHOAÒPHOAÓOAÒGGWAÕIÕEEÖ#2DA0",
  "ÒSSAÔUÔIÔAAÔEEÕÔO#2DA8ÒCCAÔUÔIÔAAÔEEÕÔO#2DB0ÒZZAÔUÔIÔAAÔEEÕÔO#2DB8ÒCCHAÕUÕIÕAAÕEEÖÕO#2DC0ÒQYAÔUÔ",
  "IÔAAÔEEÕÔO#2DC8ÒKYAÔUÔIÔAAÔEEÕÔO#2DD0ÒXYAÔUÔIÔAAÔEEÕÔO#2DD8ÒGYAÔUÔIÔAAÔEEÕÔO#2DE0ÀCOMBINING CYRI",
  "LLIC LETTER BEÚVEÚGHEÚDEÚZHEÛEÚKAÚELÛMÛNÚOÚPEÚERÛSÚTEÚHAÚTSEÚCHEÚSHAÜCHAÚFITAÚES-TEÚAÚIEÚDJERVÚM",
  "ONOGRAPH UKÚYATÛUÚIOTIFIED AÚLITTLE YUSÚBIG YUSÚIOTIFIED BIG YUSÀRIGHT ANGLE SUBSTITUTION MARKER",
  "ÌDOTTED SUBSTITUTION MARKERÀLEFT SUBSTITUTION BRACKETÀRIGHT SUBSTITUTION BRACKETÀLEFT DOTTED SUB",
  "STITUTION BRACKETÀRIGHT DOTTED SUBSTITUTION BRACKETÁAISED INTERPOLATION MARKERÇDOTTED INTERPOLAT",
  "ION MARKERÀDOTTED TRANSPOSITION MARKERÀLEFT TRANSPOSITION BRACKETÀRIGHT TRANSPOSITION BRACKETÁAI",
  "SED SQUAREÀLEFT RAISED OMISSION BRACKETÀRIGHT RAISED OMISSION BRACKETÀEDITORIAL CORONISÀPARAGRAP",
  "HOSÀFORKED PARAGRAPHOSÀREVERSED FORKED PARAGRAPHOSÀHYPODIASTOLEÀDOTTED OBELOSÂWNWARDS ANCORAÀUPW",
  "ARDS ANCORAÀDOTTED RIGHT-POINTING ANGLEÂUBLE OBLIQUE HYPHENÀINVERTED INTERROBANGÀPALM BRANCHÀHYP",
  "HEN WITH DIAERESISÀTILDE WITH RING ABOVEÀLEFT LOW PARAPHRASE BRACKETÀRIGHT LOW PARAPHRASE BRACKE",
  "TÀTILDE WITH DOT ABOVEÏBELOWÀLEFT VERTICAL BAR WITH QUILLÀRIGHT VERTICAL BAR WITH QUILLÀTOP LEFT ",
  "HALF BRACKETÄRIGHT HALF BRACKETÀBOTTOM LEFT HALF BRACKETÇRIGHT HALF BRACKETÀLEFT SIDEWAYS U BRAC",
  "KETÀRIGHT SIDEWAYS U BRACKETÀLEFT DOUBLE PARENTHESISÀRIGHT DOUBLE PARENTHESISÀTWO DOTS OVER ONE ",
  "DOT PUNCTUATIONÀONE DOT OVER TWO DOTS PUNCTUATIONÀSQUARED FOUR DOT PUNCTUATIONÀFIVE DOT MARKÀREV",
  "ERSED QUESTION MARKÀVERTICAL TILDEÀRING POINTÀWORD SEPARATOR MIDDLE DOTÀTURNED COMMAÀRAISED DOTÇ",
  "COMMAÀTURNED SEMICOLONÀDAGGER WITH LEFT GUARDÌRIGHT GUARDÀTURNED DAGGERÁOP HALF SECTION SIGNÁWO-",
  "EM DASHÁHREE-EM DASHÀSTENOGRAPHIC FULL STOPÀVERTICAL SIX DOTSÀWIGGLY VERTICAL LINEÀCAPITULUMÀDOU",
  "BLE HYPHENÀREVERSED COMMAÀDOUBLE LOW-REVERSED-9 QUOTATION MARKÁASH WITH LEFT UPTURNÁOUBLE SUSPEN",
  "SION MARKÀINVERTED LOW KAVYKAÓ WITH KAVYKA ABOVEÀLOW KAVYKAÊ WITH DOTÀDOUBLE STACKED COMMAÂTTED ",
  "SOLIDUSÀTRIPLE DAGGERÀMEDIEVAL COMMAÀPARAGRAPHUS MARKÁUNCTUS ELEVATUS MARKÀCORNISH VERSE DIVIDER",
  "ÁROSS PATTY WITH RIGHT CROSSBARÑLEFT CROSSBARÀTIRONIAN SIGN CAPITAL ETÀMEDIEVAL EXCLAMATION MARK",
  "ÉQUESTION MARKÀLEFT SQUARE BRACKET WITH STROKEÀRIGHT SQUARE BRACKET WITH STROKEÀLEFT SQUARE BRAC",
  "KET WITH DOUBLE STROKEÀRIGHT SQUARE BRACKET WITH DOUBLE STROKEÀTOP HALF LEFT PARENTHESISÉRIGHT P",
  "ARENTHESISÀBOTTOM HALF LEFT PARENTHESISÌRIGHT PARENTHESISÀOBLIQUE HYPHEN#2E80ÀCJK RADICAL REPEAT",
  "ÌCLIFFÌSECOND ONEÓTWOÔHREEÌPERSONÌBOXÌTABLEÌKNIFE ONEÒTWOÌDIVINATIONÌSEALÍMALL ONEÒTWOÌLAME ONEÑ",
  "TWOÒHREEÑFOURÌSNAKEÌTHREADÌSNOUT ONEÒTWOÌHEART ONEÒTWOÍANDÌRAP#2E9BÌCHOKEÌSUNÌMOONÌDEATHÌMOTHERÌ",
  "CIVILIANÌWATER ONEÒTWOÌFIREÌPAW ONEÐTWOÌSIMPLIFIED HALF TREE TRUNKÌCOWÌDOGÌJADEÌBOLT OF CLOTHÌEY",
  "EÌSPIRIT ONEÓTWOÌBAMBOOÌSILKÌC-SIMPLIFIED SILKÌNET ONEÐTWOÑHREEÐFOURÌMESHÌSHEEPÌRAMÌEWEÌOLDÌBRUS",
  "H ONEÒTWOÌMEATÍORTARÌGRASS ONEÒTWOÓHREEÌTIGERÌCLOTHESÌWEST ONEÑTWOÌC-SIMPLIFIED SEEÌSIMPLIFIED H",
  "ORNÌHORNÌC-SIMPLIFIED SPEECHÚHELLÌFOOTÌC-SIMPLIFIED CARTÌSIMPLIFIED WALKÌWALK ONEÑTWOÌCITYÍ-SIMP",
  "LIFIED GOLDÌLONG ONEÑTWOÌC-SIMPLIFIED LONGÙGATEÌMOUND ONEÒTWOÌRAINÌBLUEÌC-SIMPLIFIED TANNED LEAT",
  "HERÙLEAFÙWINDÙFLYÌEAT ONEÐTWOÑHREEÌC-SIMPLIFIED EATÌHEADÌC-SIMPLIFIED HORSEÌBONEÌGHOSTÌC-SIMPLIF",
  "IED FISHÙBIRDÙSALTÌSIMPLIFIED WHEAT×YELLOWÌC-SIMPLIFIED FROGÌJ-SIMPLIFIED EVENÌC-SIMPLIFIED EVEN",
  "ÌJ-SIMPLIFIED TOOTHÌC-SIMPLIFIED TOOTHÌJ-SIMPLIFIED DRAGONÌC-SIMPLIFIED DRAGONÌTURTLEÌJ-SIMPLIFI",
  "ED TURTLEÌC-SIMPLIFIED TURTLE#2F00ÀKANGXI RADICAL ONEÏLINEÏDOTÏSLASHÐECONDÏHOOKÏTWOÏLIDÏMANÏLEGS",
  "ÏENTERÐIGHTÏDOWN BOXÏCOVERÏICEÏTABLEÏOPEN BOXÏKNIFEÏPOWERÏWRAPÏSPOONÏRIGHT OPEN BOXÏHIDING ENCLO",
  "SUREÏTENÏDIVINATIONÏSEALÏCLIFFÏPRIVATEÏAGAINÏMOUTHÏENCLOSUREÐARTHÏSCHOLARÏGOÑ SLOWLYÏEVENINGÏBIG",
  "ÏWOMANÏCHILDÏROOFÏINCHÏSMALLÏLAMEÏCORPSEÏSPROUTÏMOUNTAINÏRIVERÏWORKÏONESELFÏTURBANÏDRYÏSHORT THR",
  "EADÏDOTTED CLIFFÏLONG STRIDEÏTWO HANDSÏSHOOTÏBOWÏSNOUTÏBRISTLEÏSTEPÏHEARTÐALBERDÏDOORÏHANDÏBRANC",
  "HÏRAPÏSCRIPTÏDIPPERÏAXEÏSQUAREÏNOTÏSUNÐAYÏMOONÏTREEÏLACKÏSTOPÏDEATHÏWEAPONÏDO NOTÏCOMPAREÏFURÏCL",
  "ANÏSTEAMÏWATERÏFIREÏCLAWÏFATHERÏDOUBLE XÏHALF TREE TRUNKÏSLICEÏFANGÏCOWÏDOGÏPROFOUNDÏJADEÏMELONÏ",
  "TILEÏSWEETÏLIFEÏUSEÏFIELDÏBOLT OF CLOTHÏSICKNESSÏDOTTED TENTÏWHITEÏSKINÏDISHÏEYEÏSPEARÏARROWÏSTO",
  "NEÐPIRITÏTRACKÏGRAINÏCAVEÏSTANDÏBAMBOOÏRICEÏSILKÏJARÏNETÏSHEEPÏFEATHERÏOLDÏANDÏPLOWÏEARÏBRUSHÏME",
  "ATÐINISTERÏSELFÏARRIVEÏMORTARÏTONGUEÏOPPOSEÏBOATÏSTOPPINGÏCOLORÏGRASSÏTIGERÏINSECTÏBLOODÏWALK EN",
  "CLOSUREÏCLOTHESÏWESTÏSEEÏHORNÏSPEECHÏVALLEYÏBEANÏPIGÏBADGERÏSHELLÏREDÐUNÏFOOTÏBODYÏCARTÏBITTERÏM",
  "ORNINGÏWALKÏCITYÏWINEÏDISTINGUISHÏVILLAGEÏGOLDÏLONGÏGATEÏMOUNDÏSLAVEÐHORT TAILED BIRDÏRAINÏBLUEÏ",
  "WRONGÏFACEÏLEATHERÏTANNED LEATHERÏLEEKÏSOUNDÏLEAFÏWINDÏFLYÏEATÏHEADÏFRAGRANTÏHORSEÏBONEÏTALLÏHAI",
  "RÏFIGHTÏSACRIFICIAL WINEÏCAULDRONÏGHOSTÏFISHÏBIRDÏSALTÏDEERÏWHEATÏHEMPÏYELLOWÏMILLETÏBLACKÏEMBRO",
  "IDERYÏFROGÏTRIPODÏDRUMÏRATÏNOSEÏEVENÏTOOTHÏDRAGONÏTURTLEÏFLUTE#2FF0ÀIDEOGRAPHIC DESCRIPTION CHAR",
  "ACTER LEFT TO RIGHTâABOVE TO BELOWâLEFT TO MIDDLE AND RIGHTâABOVE TO MIDDLE AND BELOWâFULL SURRO",
  "UNDâSURROUND FROM ABOVEðBELOWðLEFTðUPPER LEFTöRIGHTðLOWER LEFTâOVERLAID#3000ÌSPACEÌCOMMAÌFULL ST",
  "OPÀDITTO MARKÀJAPANESE INDUSTRIAL STANDARD SYMBOLÀIDEOGRAPHIC ITERATION MARKÌCLOSING MARKÌNUMBER ",
  "ZEROÀLEFT ANGLE BRACKETÀRIGHT ANGLE BRACKETÀLEFT DOUBLE ANGLE BRACKETÀRIGHT DOUBLE ANGLE BRACKET",
  "ÀLEFT CORNER BRACKETÀRIGHT CORNER BRACKETÀLEFT WHITE CORNER BRACKETÀRIGHT WHITE CORNER BRACKETÀL",
  "EFT BLACK LENTICULAR BRACKETÀRIGHT BLACK LENTICULAR BRACKETÀPOSTAL MARKÀGETA MARKÀLEFT TORTOISE ",
  "SHELL BRACKETÀRIGHT TORTOISE SHELL BRACKETÀLEFT WHITE LENTICULAR BRACKETÀRIGHT WHITE LENTICULAR ",
  "BRACKETÀLEFT WHITE TORTOISE SHELL BRACKETÀRIGHT WHITE TORTOISE SHELL BRACKETÀLEFT WHITE SQUARE B",
  "RACKETÀRIGHT WHITE SQUARE BRACKETÀWAVE DASHÀREVERSED DOUBLE PRIME QUOTATION MARKÀDOUBLE PRIME QU",
  "OTATION MARKÀLOW DOUBLE PRIME QUOTATION MARKÀPOSTAL MARK FACEÀHANGZHOU NUMERAL ONEÑTWOÒHREEÑFOUR",
  "ÒIVEÑSIXÒEVENÑEIGHTÑNINEÀIDEOGRAPHIC LEVEL TONE MARKÌRISING TONE MARKÌDEPARTING TONE MARKÌENTERI",
  "NG TONE MARKÀHANGUL SINGLE DOT TONE MARKÇDOUBLE DOT TONE MARKÀWAVY DASHÀVERTICAL KANA REPEAT MAR",
  "KÕWITH VOICED SOUND MARKÕMARK UPPER HALFÕWITH VOICED SOUND MARK UPPER HALFÕMARK LOWER HALFÀCIRCL",
  "ED POSTAL MARKÀIDEOGRAPHIC TELEGRAPH LINE FEED SEPARATOR SYMBOLÀHANGZHOU NUMERAL TENÒWENTYÒHIRTY",
  "ÀVERTICAL IDEOGRAPHIC ITERATION MARKÀMASU MARKÀPART ALTERNATION MARKÀIDEOGRAPHIC VARIATION INDIC",
  "ATORÌHALF FILL SPACE#3041ÀHIRAGANA LETTER SMALL AÐAÐSMALL IÐIÐSMALL UÐUÐSMALL EÐEÐSMALL OÐOÐKAÐG",
  "AÐKIÐGIÐKUÐGUÐKEÐGEÐKOÐGOÐSAÐZAÐSIÐZIÐSUÐZUÐSEÐZEÐSOÐZOÐTAÐDAÐTIÐDIÐSMALL TUÐTUÐDUÐTEÐDEÐTOÐDOÐN",
  "AÑIÑUÑEÑOÐHAÐBAÐPAÐHIÐBIÐPIÐHUÐBUÐPUÐHEÐBEÐPEÐHOÐBOÐPOÐMAÑIÑUÑEÑOÐSMALL YAÐYAÐSMALL YUÐYUÐSMALL ",
  "YOÐYOÐRAÑIÑUÑEÑOÐSMALL WAÐWAÑIÑEÑOÐNÐVUÐSMALL KA×E#3099ÀCOMBINING KATAKANA-HIRAGANA VOICED SOUND ",
  "MARKÜSEMI-VOICED SOUND MARKÀKATAKANA-HIRAGANA VOICED SOUND MARKÒSEMI-VOICED SOUND MARKÀHIRAGANA ",
  "ITERATION MARKÉVOICED ITERATION MARKÉDIGRAPH YORIÀKATAKANA-HIRAGANA DOUBLE HYPHENÈ LETTER SMALL ",
  "AÐAÐSMALL IÐIÐSMALL UÐUÐSMALL EÐEÐSMALL OÐOÐKAÐGAÐKIÐGIÐKUÐGUÐKEÐGEÐKOÐGOÐSAÐZAÐSIÐZIÐSUÐZUÐSEÐZ",
  "EÐSOÐZOÐTAÐDAÐTIÐDIÐSMALL TUÐTUÐDUÐTEÐDEÐTOÐDOÐNAÑIÑUÑEÑOÐHAÐBAÐPAÐHIÐBIÐPIÐHUÐBUÐPUÐHEÐBEÐPEÐHO",
  "ÐBOÐPOÐMAÑIÑUÑEÑOÐSMALL YAÐYAÐSMALL YUÐYUÐSMALL YOÐYOÐRAÑIÑUÑEÑOÐSMALL WAÐWAÑIÑEÑOÐNÐVUÐSMALL KA",
  "×EÐVAÑIÑEÑOÉMIDDLE DOTÈ-HIRAGANA PROLONGED SOUND MARKÈ ITERATION MARKÉVOICED ITERATION MARKÉDIGR",
  "APH KOTO#3105ÀBOPOMOFO LETTER BÐPÐMÐFÐDÐTÐNÐLÐGÐKÐHÐJÐQÐXÐZHÐCHÐSHÐRÐZÐCÐSÐAÐOÐEÑHÐAIÐEIÐAUÐOUÐA",
  "NÐENÐANGÐENGÑRÐIÐUÐIUÐVÐNGÐGNÐIHÐO WITH DOT ABOVEÐNN#3131ÀHANGUL LETTER KIYEOKÎSSANGKIYEOKÎKIYEO",
  "K-SIOSÎNIEUNÓ-CIEUCÔHIEUHÎTIKEUTÎSSANGTIKEUTÎRIEULÓ-KIYEOKÔMIEUMÔPIEUPÔSIOSÔTHIEUTHÔPHIEUPHÔHIEU",
  "HÎMIEUMÎPIEUPÎSSANGPIEUPÎPIEUP-SIOSÎSIOSÏSANGSIOSÎIEUNGÎCIEUCÎSSANGCIEUCÎCHIEUCHÎKHIEUKHÎTHIEUTH",
  "ÎPHIEUPHÎHIEUHÎAÏEÎYAÐEÎEOÏÎYEOÐÎOÎWAÐEÎOEÎYOÎUÎWEOÐÏIÎYUÎEUÎYIÎIÇFILLERÇLETTER SSANGNIEUNÎNIEUN",
  "-TIKEUTÔSIOSÔPANSIOSÎRIEUL-KIYEOK-SIOSÔTIKEUTÔPIEUP-SIOSÕANSIOSÔYEORINHIEUHÎMIEUM-PIEUPÔSIOSÔPAN",
  "SIOSÎKAPYEOUNMIEUMÎPIEUP-KIYEOKÔTIKEUTÔSIOS-KIYEOKÙTIKEUTÔCIEUCÔTHIEUTHÎKAPYEOUNPIEUPÖSSANGPIEUP",
  "ÎSIOS-KIYEOKÓNIEUNÓTIKEUTÓPIEUPÓCIEUCÎPANSIOSÎSSANGIEUNGÎYESIEUNGÖ-SIOS×PANSIOSÎKAPYEOUNPHIEUPHÎ",
  "SSANGHIEUHÎYEORINHIEUHÏO-YAÓEÑIÏU-YEOÓÑIÎARAEAÓE#3190ÀIDEOGRAPHIC ANNOTATION LINKING MARK×REVERS",
  "E MARK×ONE MARK×TWO MARKØHREE MARK×FOUR MARK×TOP MARK×MIDDLE MARK×BOTTOM MARK×FIRST MARK×SECOND ",
  "MARK×THIRD MARK×FOURTH MARK×HEAVEN MARK×EARTH MARK×MAN MARKÀBOPOMOFO LETTER BUÐZIÐJIÐGUÐEEÑNNÐOO",
  "ÑNNÐIRÐANNÐINNÐUNNÐIMÐNGGÐAINNÑUNNÑMÐOMÑNGÐINNNÉFINAL LETTER PÖTÖKÖHÉLETTER GHÐLHÐZYÉFINAL LETTE",
  "R GÉLETTER GWÐKWÐOEÐAHÀCJK STROKE TËWGËXGËBXGËSWËHZZÍGÌPÌZWGËSZWGËHZTÍZPÌPWGÌZWÍZZËNËHËSËPËSPËDË",
  "HZÌGËSZÌWZÌTÌGËPDÌZËTNËSZZÌWGËHXWGÌZZZGËPGËQ#31F0ÀKATAKANA LETTER SMALL KUÖSI×UÖTOÖNUÖHA×I×U×E×O",
  "ÖMUÖRA×I×U×E×OÀPARENTHESIZED HANGUL KIYEOKÕNIEUNÕTIKEUTÕRIEULÕMIEUMÕPIEUPÕSIOSÕIEUNGÕCIEUCÖHIEUC",
  "HÕKHIEUKHÕTHIEUTHÕPHIEUPHÕHIEUHÕKIYEOK AÕNIEUN AÕTIKEUT AÕRIEUL AÕMIEUM AÕPIEUP AÕSIOS AÕIEUNG A",
  "ÕCIEUC AÖHIEUCH AÕKHIEUKH AÕTHIEUTH AÕPHIEUPH AÕHIEUH AÕCIEUC UÎKOREAN CHARACTER OJEONà HU#3220Î",
  "IDEOGRAPH ONEØTWOÙHREEØFOURÙIVEØSIXÙEVENØEIGHTØNINEØTENØMOONØFIREØWATERÙOODØMETALØEARTHØSUNÙTOCK",
  "ØHAVEØSOCIETYØNAMEØSPECIALØFINANCIALØCONGRATULATIONØLABORØREPRESENTØCALLØSTUDYÙUPERVISEØENTERPRI",
  "SEØRESOURCEØALLIANCEØFESTIVALØRESTØSELFØREACHÀCIRCLED IDEOGRAPH QUESTIONÒKINDERGARTENÒSCHOOLÒKOT",
  "OÈNUMBER TEN ON BLACK SQUAREÐWENTY ON BLACK SQUAREÐHIRTY ON BLACK SQUAREÏFORTY ON BLACK SQUAREÐI",
  "FTY ON BLACK SQUAREÏSIXTY ON BLACK SQUAREÐEVENTY ON BLACK SQUAREÏEIGHTY ON BLACK SQUAREÀPARTNERS",
  "HIP SIGNÀCIRCLED NUMBER TWENTY ONEÖTWO×HREEÖFOUR×IVEÖSIX×EVENÖEIGHTÖNINEÐHIRTYÕ ONEÖTWO×HREEÖFOU",
  "R×IVEÈHANGUL KIYEOKÏNIEUNÏTIKEUTÏRIEULÏMIEUMÏPIEUPÏSIOSÏIEUNGÏCIEUCÐHIEUCHÏKHIEUKHÏTHIEUTHÏPHIEU",
  "PHÏHIEUHÏKIYEOK AÏNIEUN AÏTIKEUT AÏRIEUL AÏMIEUM AÏPIEUP AÏSIOS AÏIEUNG AÏCIEUC AÐHIEUCH AÏKHIEU",
  "KH AÏTHIEUTH AÏPHIEUPH AÏHIEUH AÈKOREAN CHARACTER CHAMKOÙJUEUIÈHANGUL IEUNG UÀKOREAN STANDARD SY",
  "MBOLÀCIRCLED IDEOGRAPH ONEÒTWOÓHREEÒFOURÓIVEÒSIXÓEVENÒEIGHTÒNINEÒTENÒMOONÒFIREÒWATERÓOODÒMETALÒE",
  "ARTHÒSUNÓTOCKÒHAVEÒSOCIETYÒNAMEÒSPECIALÒFINANCIALÒCONGRATULATIONÒLABORÒSECRETÒMALEÒFEMALEÒSUITAB",
  "LEÒEXCELLENTÒPRINTÒATTENTIONÒITEMÒRESTÒCOPYÔRRECTÒHIGHÒCENTREÒLOWÓEFTÒRIGHTÒMEDICINEÒRELIGIONÒST",
  "UDYÓUPERVISEÒENTERPRISEÒRESOURCEÒALLIANCEÒNIGHTÈNUMBER THIRTY SIX×EVENÖEIGHTÖNINEÏFORTYÔ ONEÕTWO",
  "ÖHREEÕFOURÖIVEÕSIXÖEVENÕEIGHTÕNINEÐIFTYÀIDEOGRAPHIC TELEGRAPH SYMBOL FOR JANUARYáFEBRUARYáMARCHá",
  "APRILáMAYáJUNEãLYáAUGUSTáSEPTEMBERáOCTOBERáNOVEMBERáDECEMBERÀSQUARE HGÇERGÈVÀLIMITED LIABILITY S",
  "IGNÀCIRCLED KATAKANA AÑIÑUÑEÑOÑKAÒIÒUÒEÒOÑSAÒIÒUÒEÒOÑTAÒIÒUÒEÒOÑNAÒIÒUÒEÒOÑHAÒIÒUÒEÒOÑMAÒIÒUÒEÒO",
  "ÑYAÒUÒOÑRAÒIÒUÒEÒOÑWAÒIÒEÒOÀSQUARE ERA NAME REIWAÇAPAATOÈRUHUAÈNPEAÈARUÇININGUÉTIÇUONÇESUKUUDOÈE",
  "KAAÇONSUÈOMUÇKAIRIÉRATTOÊORIIÇGARONÉNMAÈIGAÉNIIÇKYURIIÇGIRUDAAÇKIROËGURAMUËMEETORUËWATTOÇGURAMUÍ",
  "TONÇKURUZEIROÊOONEÈEESUÈORUNAÉOPOÇSAIKURUÉNTIIMUÈIRINGUÈENTIËOÇDAASUÈESIÈORUÇTONÇNANOÈOTTOÇHAITU",
  "ÇPAASENTOÊTUÇBAARERUÇPIASUTORUÉKURUÊOÇBIRUÇHUARADDOÉIITOÇBUSSYERUÇHURANÈEKUTAARUÇPESOÉNIHIÇHERUT",
  "UÇPENSUÉEZIÇBEETAÇPOINTOÇBORUTOÇHONÇPONDOÇHOORUÊNÇMAIKUROÊRUÉHHAÉRUKUÉNSYONÈIKURONÉRIËBAARUÈEGAË",
  "TONÉETORUÇYAADOÊRUÈUANÇRITTORUÉRAÈUPIIÉUBURUÈEMUÉNTOGENÇWATTOÀIDEOGRAPHIC TELEGRAPH SYMBOL FOR H",
  "OUR ZEROæONEæTWOçHREEæFOURçIVEæSIXçEVENæEIGHTæNINEæTENæELEVENæTWELVEçHIRTEENæFOURTEENçIFTEENæSIX",
  "TEENçEVENTEENæEIGHTEENæNINETEENæTWENTYì-ONEíTWOîHREEíFOURÀSQUARE HPAÇDAÇAUÇBARÇOVÇPCÇDMÉ SQUARED",
  "ÊCUBEDÇIUÇERA NAME HEISEIÐSYOUWAÐTAISYOUÐMEIZIÇCORPORATIONÇPA AMPSÇNAÇMU AÈAÇKAÈBÇMBÇGBÇCALÇKCAL",
  "ÇPFÇNFÇMU FÊGÈGÇKGÇHZÇKHZÇMHZÇGHZÇTHZÇMU LÈLÇDLÇKLÇFMÇNMÇMU MÈMÇCMÇKMÇMM SQUAREDÇCM SQUAREDÇM SQ",
  "UAREDÇKM SQUAREDÇMM CUBEDÇCM CUBEDÇM CUBEDÇKM CUBEDÇM OVER SÏ SQUAREDÇPAÇKPAÇMPAÇGPAÇRADÊ OVER S",
  "Ñ SQUAREDÇPSÇNSÇMU SÈSÇPVÇNVÇMU VÈVÇKVÇMV MEGAÇPWÇNWÇMU WÈWÇKWÇMW MEGAÇK OHMÇM OHMÇAMÇBQÇCCÈDÈ O",
  "VER KGÈOÇDBÇGYÇHAÈPÇINÇKKÈM CAPITALÈTÇLMÈNÈOGÈXÇMB SMALLÈILÈOLÇPHÈMÈPMÈRÇSRÈVÇWBÇV OVER MÇA OVER ",
  "MÀIDEOGRAPHIC TELEGRAPH SYMBOL FOR DAY ONEåTWOæHREEåFOURæIVEåSIXæEVENåEIGHTåNINEåTENåELEVENåTWEL",
  "VEæHIRTEENåFOURTEENæIFTEENåSIXTEENæEVENTEENåEIGHTEENåNINETEENåTWENTYë-ONEìTWOíHREEìFOURíIVEìSIXí",
  "EVENìEIGHTìNINEæHIRTYë-ONEÀSQUARE GAL#4DC0ÀHEXAGRAM FOR THE CREATIVE HEAVENÑRECEPTIVE EARTHÍDIFF",
  "ICULTY AT THE BEGINNINGÍYOUTHFUL FOLLYÍWAITINGÍCONFLICTÍTHE ARMYÍHOLDING TOGETHERÍSMALL TAMINGÍT",
  "READINGÍPEACEÍSTANDSTILLÍFELLOWSHIPÍGREAT POSSESSIONÍMODESTYÍENTHUSIASMÍFOLLOWINGÍWORK ON THE DE",
  "CAYEDÍAPPROACHÍCONTEMPLATIONÍBITING THROUGHÍGRACEÍSPLITTING APARTÍRETURNÍINNOCENCEÍGREAT TAMINGÍ",
  "MOUTH CORNERSÍGREAT PREPONDERANCEÍTHE ABYSMAL WATERÑCLINGING FIREÍINFLUENCEÍDURATIONÍRETREATÍGRE",
  "AT POWERÍPROGRESSÍDARKENING OF THE LIGHTÍTHE FAMILYÍOPPOSITIONÎBSTRUCTIONÍDELIVERANCEÏCREASEÍINC",
  "REASEÍBREAKTHROUGHÍCOMING TO MEETÍGATHERING TOGETHERÍPUSHING UPWARDÍOPPRESSIONÍTHE WELLÍREVOLUTI",
  "ONÍTHE CAULDRONÑAROUSING THUNDERÑKEEPING STILL MOUNTAINÍDEVELOPMENTÍTHE MARRYING MAIDENÍABUNDANC",
  "EÍTHE WANDERERÑGENTLE WINDÑJOYOUS LAKEÍDISPERSIONÍLIMITATIONÍINNER TRUTHÍSMALL PREPONDERANCEÍAFT",
  "ER COMPLETIONÍBEFORE COMPLETION#A000ÀYI SYLLABLE ITÍXÍÍPÍETÎXÎÎPÌATÍXÍÍPÌUOXÎÎPÌOTÍXÍÍPÌEXÍÌWUÌB",
  "ITÎXÎÎPÎETÏXÏÏPÍATÎXÎÎPÍUOXÏÏPÍOTÎXÎÎPÍEXÎÎPÍUTÎXÎÎPÎRXÏÍYTÎXÎÎPÎRXÏÌPITÎXÎÎPÎEXÏÏPÍATÎXÎÎPÍUOXÏ",
  "ÏPÍOTÎXÎÎPÍUTÎXÎÎPÎRXÏÍYTÎXÎÎPÎRXÏÌBBITÏXÏÏPÏETÐXÐÐPÎATÏXÏÏPÎUOXÐÐPÎOTÏXÏÏPÎEXÏÏPÎUTÏXÏÏPÏRXÐÎYT",
  "ÏXÏÏPÌNBITÏXÏÏPÏEXÐÐPÎATÏXÏÏPÎOTÏXÏÏPÎUTÏXÏÏPÏRXÐÎYTÏXÏÏPÏRXÐÌHMITÏXÏÏPÏEXÐÐPÎATÏXÏÏPÎUOXÐÐPÎOTÏ",
  "XÏÏPÎUTÏXÏÏPÏRXÐÎYXÏÏPÏRXÐÌMITÎXÎÎPÎEXÏÏPÍATÎXÎÎPÍUOTÏXÏÏPÍOTÎXÎÎPÍEXÎÍUTÎXÎÎPÎRXÏÍYTÎXÎÎPÌFITÎX",
  "ÎÎPÍATÎXÎÎPÍOXÎÎPÍUTÎXÎÎPÎRXÏÍYTÎXÎÎPÌVITÎXÎÎPÎETÏXÏÏPÍATÎXÎÎPÍOTÎXÎÎPÍEXÎPÍUTÎXÎÎPÎRXÏÍYTÎXÎÎPÎ",
  "RXÏÌDITÎXÎÎPÎEXÏÏPÍATÎXÎÎPÍUOXÏÍOTÎXÎÎPÍEXÎÎPÍUTÎXÎÎPÎRXÏÌTITÎXÎÎPÎEXÏÏPÍATÎXÎÎPÍUOTÏXÏÏPÍOTÎXÎÎ",
  "PÍEXÎÎPÍUTÎXÎÎPÎRXÏÌDDITÏXÏÏPÏEXÐÐPÎATÏXÏÏPÎUOXÐÐPÎOTÏXÏÏPÎEXÏÏPÎUTÏXÏÏPÏRXÐÌNDITÏXÏÏPÏEXÐÎATÏXÏ",
  "ÏPÎOTÏXÏÏPÎEXÏÏPÎUTÏXÏÏPÏRXÐÌHNITÏXÏÏPÏETÐXÐÐPÎATÏXÏÏPÎUOXÐÎOTÏXÏPÎEXÏÏPÎUTÌNITÎXÎÎPÎEXÏÏPÍAXÎÎP",
  "ÍUOXÏÏPÍOTÎXÎÎPÍEXÎÎPÍUTÎXÎÎPÎRXÏÌHLITÏXÏÏPÏEXÐÐPÎATÏXÏÏPÎUOXÐÐPÎOXÏÏPÎEXÏÏPÎUTÏXÏÏPÏRXÐÎYTÏXÏÏP",
  "ÏRXÐÌLITÎXÎÎPÎETÏXÏÏPÍATÎXÎÎPÍUOTÏXÏÏPÍOTÎXÎÎPÍEXÎÎPÍUTÎXÎÎPÎRXÏÍYTÎXÎÎPÎRXÏÌGITÎXÎÎPÎETÏXÏÏPÍAT",
  "ÎXÎÎPÍUOTÏXÏÏPÍOTÎXÎÎPÍETÎXÎÎPÍUTÎXÎÎPÎRXÏÌKITÎXÎÎPÎEXÏÏPÍATÎXÎÎPÍUOXÏÏPÍOTÎXÎÎPÍETÎXÎÎPÍUTÎXÎÎP",
  "ÎRXÏÌGGITÏXÏÏEXÐÐPÎATÏXÏÏPÎUOTÐXÐÐPÎOTÏXÏÏPÎETÏXÏÏPÎUTÏXÏÏPÏRXÐÌMGIEXÐÎATÏXÏÏPÎUOXÐÐPÎOTÏXÏÏPÎEX",
  "ÏÏPÎUTÏXÏÏPÏRXÐÌHXITÏXÏÏPÏETÐXÐÐPÎATÏXÏÏPÎUOTÐXÐÐPÎOTÏXÏÏPÎEXÏÏPÌNGIEXÐÐPÎATÏXÏÏPÎUOTÐXÐÎOTÏXÏÏP",
  "ÎEXÏÏPÌHITÎEXÏÍATÎXÎÎPÍUOTÏXÏÏPÍOTÎXÎÎPÍEXÎÎPÌWATÎXÎÎPÍUOXÏÏPÍOXÎÎPÍEXÎÎPÌZITÎXÎÎPÎEXÏÏPÍATÎXÎÎP",
  "ÍUOXÏÏPÍOTÎXÎÎPÍEXÎÎPÍUTÎXÎÎPÎRXÏÍYTÎXÎÎPÎRXÏÌCITÎXÎÎPÎETÏXÏÏPÍATÎXÎÎPÍUOXÏÏPÍOTÎXÎÎPÍEXÎÎPÍUTÎX",
  "ÎÎPÎRXÏÍYTÎXÎÎPÎRXÏÌZZITÏXÏÏPÏETÐXÐÐPÎATÏXÏÏPÎOXÏÏPÎEXÏÏPÎUXÏÏPÏRXÐÎYTÏXÏÏPÏRXÐÌNZITÏXÏÏPÏEXÐÐPÎ",
  "ATÏXÏÏPÎUOXÐÎOXÏPÎEXÏÎUXÏÏPÏRXÐÎYTÏXÏÏPÏRXÐÌSITÎXÎÎPÎEXÏÏPÍATÎXÎÎPÍUOXÏÏPÍOTÎXÎÎPÍEXÎÎPÍUTÎXÎÎPÎ",
  "RXÏÍYTÎXÎÎPÎRXÏÍSITÏXÏÏPÏEXÐÐPÎATÏXÏÏPÎOTÏXÏÏPÎEXÏÏPÎUTÏXÏÏPÎYTÏXÏÏPÏRXÐÌZHATÏXÏÏPÎUOXÐÐPÎOTÏXÏÏ",
  "PÎETÏXÏÏPÎUTÏXÏÏPÏRXÐÎYTÏXÏÏPÏRXÐÌCHATÏXÏÏPÎUOTÐXÐÐPÎOTÏXÏÏPÎETÏXÏÏPÎUXÏÏPÏRXÐÎYTÏXÏÏPÏRXÐÌRRAXÏ",
  "ÎUOXÐÎOTÏXÏÏPÎETÏXÏÏPÎUTÏXÏÏPÏRXÐÎYTÏXÏÏPÏRXÐÌNRATÏXÏÏPÎOXÏÏPÎETÏXÏÏPÎUTÏXÏÏPÏRXÐÎYTÏXÏÏPÏRXÐÌSH",
  "ATÏXÏÏPÎUOXÐÐPÎOTÏXÏÏPÎETÏXÏÏPÎUTÏXÏÏPÏRXÐÎYTÏXÏÏPÏRXÐÌRATÎXÎÎPÍUOXÏÏPÍOTÎXÎÎPÍEXÎÎPÍUTÎXÎÎPÎRXÏ",
  "ÍYTÎXÎÎPÎRXÏÌJITÎXÎÎPÎETÏXÏÏPÍUOTÏXÏÏPÍOTÎXÎÎPÍUTÎXÎÎPÎRXÏÍYTÎXÎÎPÎRXÏÌQITÎXÎÎPÎETÏXÏÏPÍUOTÏXÏÏP",
  "ÍOTÎXÎÎPÍUTÎXÎÎPÎRXÏÍYTÎXÎÎPÎRXÏÌJJITÏXÏÏPÏETÐXÐÐPÎUOXÐÐPÎOTÏXÏÏPÎUTÏXÏÏPÏRXÐÎYTÏXÏÏPÌNJITÏXÏÏPÏ",
  "ETÐXÐÐPÎUOXÐÎOTÏXÏÏPÎUXÏÏPÏRXÐÎYTÏXÏÏPÏRXÐÍYITÏXÏÏPÏETÐXÐÐPÎUOXÐÐPÎOTÏXÏÏPÎUTÏXÏÏPÌXITÎXÎÎPÎETÏX",
  "ÏÏPÍUOXÏÍOTÎXÎÎPÍYTÎXÎÎPÎRXÏÌYITÎXÎÎPÎETÏXÏÏPÍUOTÏXÏÏPÍOTÎXÎÎPÍUTÎXÎÎPÎRXÏÍYTÎXÎÎPÎRXÏ#A490ÃRADI",
  "CAL QOTËLIËKITËNYIPËCYPËSSIËGGOPÌEPËMIËHXITËLYRËBBUTËMOPËYOËPUTËHXUOËTATËGAËZUPËCYTËDDURËBURËGGU",
  "OËNYOPËTUËOPËJJUTËZOTËPYTËHMOËYITËVURËSHYËVEPËZAËJOËNZUPËJJYËGOTËJJIEËWOËDUËSHURËLIEËCYÌUOPÌIPËH",
  "XOPËSHATËZURËSHOPËCHEËZZIETËNBIEËKE#A4D0ÀLISU LETTER BAÌPAÍHAÌDAÌTAÍHAÌGAÌKAÍHAÌJAÌCAÍHAÌDZAÌTSA",
  "ÎHAÌMAÌNAÌLAÌSAÌZHAÍAÌNGAÌHAÌXAÌHHAÌFAÌWAÌSHAÌYAÌGHAÌAÍEÌEÍUÌIÌOÌUÍEÍHÌOEÌTONE MYA TIÑNA POÑMYA ",
  "CYAÕBOÕNAÕJEUÅPUNCTUATION COMMAÑFULL STOPÀVAI SYLLABLE EEÏNÍHEEÍWEEÐNÍPEEÍBHEEÎEEÍMBEEÍKPEEÍMGBE",
  "EÍGBEEÍFEEÍVEEÍTEEÎHEEÍDHEEÏHEEÍLEEÍREEÍDEEÍNDEEÍSEEÎHEEÍZEEÎHEEÍCEEÍJEEÍNJEEÍYEEÍKEEÍNGGEEÍGEEÍ",
  "MEEÍNEEÎYEEÍIÎNÍHIÏNÍWIÏNÍPIÍBHIÎIÍMBIÍKPIÍMGBIÍGBIÍFIÍVIÍTIÎHIÍDHIÏHIÍLIÍRIÍDIÍNDIÍSIÎHIÍZIÎHIÍ",
  "CIÍJIÍNJIÍYIÍKIÍNGGIÍGIÍMIÍNIÎYIÍAÎNÍNGANÍHAÏNÍWAÏNÍPAÍBHAÎAÍMBAÍKPAÐNÍMGBAÍGBAÍFAÍVAÍTAÎHAÍDHAÏ",
  "HAÍLAÍRAÍDAÍNDAÍSAÎHAÍZAÎHAÍCAÍJAÍNJAÍYAÍKAÏNÍNGGAÍGAÍMAÍNAÎYAÍOOÏNÍHOOÍWOOÐNÍPOOÍBHOOÎOOÍMBOOÍK",
  "POOÍMGBOOÍGBOOÍFOOÍVOOÍTOOÎHOOÍDHOOÏHOOÍLOOÍROOÍDOOÍNDOOÍSOOÎHOOÍZOOÎHOOÍCOOÍJOOÍNJOOÍYOOÍKOOÍNG",
  "GOOÍGOOÍMOOÍNOOÎYOOÍUÎNÍHUÏNÍWUÏNÍPUÍBHUÎUÍMBUÍKPUÍMGBUÍGBUÍFUÍVUÍTUÎHUÍDHUÏHUÍLUÍRUÍDUÍNDUÍSUÎH",
  "UÍZUÎHUÍCUÍJUÍNJUÍYUÍKUÍNGGUÍGUÍMUÍNUÎYUÍOÎNÍNGONÍHOÏNÍWOÏNÍPOÍBHOÎOÍMBOÍKPOÍMGBOÍGBOÐNÍFOÍVOÍTO",
  "ÎHOÍDHOÏHOÍLOÍROÍDOÍNDOÍSOÎHOÍZOÎHOÍCOÍJOÍNJOÍYOÍKOÍNGGOÍGOÍMOÍNOÎYOÍEÎNÍNGENÍHEÏNÍWEÏNÍPEÍBHEÎE",
  "ÍMBEÍKPEÐNÍMGBEÍGBEÐNÍFEÍVEÍTEÎHEÍDHEÏHEÍLEÍREÍDEÍNDEÍSEÎHEÍZEÎHEÍCEÍJEÍNJEÍYEÍKEÍNGGEÑNÍGEÏNÍME",
  "ÍNEÎYEÎGÍLENGTHENERÄCOMMAÄFULL STOPÄQUESTION MARKÄSYLLABLE NDOLE FAÓKAÓSOOÆMBOL FEENGËKEENGËTING",
  "ËNIIËBANGËFAAËTAAËDANGÌOONGËKUNGËTONGËDO-OËJONGÄDIGIT ZEROÊONEÊTWOËHREEÊFOURËIVEÊSIXËEVENÊEIGHTÊ",
  "NINEÄSYLLABLE NDOLE MAÓDO#A640ÀCYRILLIC CAPITAL LETTER ZEMLYAÉSMALL LETTER ZEMLYAÉCAPITAL LETTER ",
  "DZELOÉSMALL LETTER DZELOÉCAPITAL LETTER REVERSED DZEÉSMALL LETTER REVERSED DZEÉCAPITAL LETTER IO",
  "TAÉSMALL LETTER IOTAÉCAPITAL LETTER DJERVÉSMALL LETTER DJERVÉCAPITAL LETTER MONOGRAPH UKÉSMALL L",
  "ETTER MONOGRAPH UKÉCAPITAL LETTER BROAD OMEGAÉSMALL LETTER BROAD OMEGAÉCAPITAL LETTER NEUTRAL YE",
  "RÉSMALL LETTER NEUTRAL YERÉCAPITAL LETTER YERU WITH BACK YERÉSMALL LETTER YERU WITH BACK YERÉCAP",
  "ITAL LETTER IOTIFIED YATÉSMALL LETTER IOTIFIED YATÉCAPITAL LETTER REVERSED YUÉSMALL LETTER REVER",
  "SED YUÉCAPITAL LETTER IOTIFIED AÉSMALL LETTER IOTIFIED AÉCAPITAL LETTER CLOSED LITTLE YUSÉSMALL ",
  "LETTER CLOSED LITTLE YUSÉCAPITAL LETTER BLENDED YUSÉSMALL LETTER BLENDED YUSÉCAPITAL LETTER IOTI",
  "FIED CLOSED LITTLE YUSÉSMALL LETTER IOTIFIED CLOSED LITTLE YUSÉCAPITAL LETTER YNÉSMALL LETTER YN",
  "ÉCAPITAL LETTER REVERSED TSEÉSMALL LETTER REVERSED TSEÉCAPITAL LETTER SOFT DEÉSMALL LETTER SOFT ",
  "DEÉCAPITAL LETTER SOFT ELÉSMALL LETTER SOFT ELÉCAPITAL LETTER SOFT EMÉSMALL LETTER SOFT EMÉCAPIT",
  "AL LETTER MONOCULAR OÉSMALL LETTER MONOCULAR OÉCAPITAL LETTER BINOCULAR OÉSMALL LETTER BINOCULAR ",
  "OÉCAPITAL LETTER DOUBLE MONOCULAR OÉSMALL LETTER DOUBLE MONOCULAR OÉLETTER MULTIOCULAR OÁOMBININ",
  "G CYRILLIC VZMETÓTEN MILLIONS SIGNÓHUNDRED MILLIONS SIGNÓTHOUSAND MILLIONS SIGNÀSLAVONIC ASTERIS",
  "KÀCOMBINING CYRILLIC LETTER UKRAINIAN IEÚIÚYIÚUÚHARD SIGNÚYERUÚSOFT SIGNÚOMEGAÓKAVYKAÓPAYEROKÁYR",
  "ILLIC KAVYKAÉPAYEROKÉCAPITAL LETTER DWEÉSMALL LETTER DWEÉCAPITAL LETTER DZWEÉSMALL LETTER DZWEÉC",
  "APITAL LETTER ZHWEÉSMALL LETTER ZHWEÉCAPITAL LETTER CCHEÉSMALL LETTER CCHEÉCAPITAL LETTER DZZEÉS",
  "MALL LETTER DZZEÉCAPITAL LETTER TE WITH MIDDLE HOOKÉSMALL LETTER TE WITH MIDDLE HOOKÉCAPITAL LET",
  "TER TWEÉSMALL LETTER TWEÉCAPITAL LETTER TSWEÉSMALL LETTER TSWEÉCAPITAL LETTER TSSEÉSMALL LETTER ",
  "TSSEÉCAPITAL LETTER TCHEÉSMALL LETTER TCHEÉCAPITAL LETTER HWEÉSMALL LETTER HWEÉCAPITAL LETTER SH",
  "WEÉSMALL LETTER SHWEÉCAPITAL LETTER DOUBLE OÉSMALL LETTER DOUBLE OÉCAPITAL LETTER CROSSED OÉSMAL",
  "L LETTER CROSSED OÀMODIFIER LETTER CYRILLIC HARD SIGNÙSOFT SIGNÀCOMBINING CYRILLIC LETTER EFÚIOT",
  "IFIED EÀBAMUM LETTER AÍKAÍUÍKUÍEEÍREEÍTAEÍOÍNYIÍIÍLAÍPAÍRIIÏEEÍLEEEEÍMEEEEÍTAAÍNDAAÎJAEMÍMÍSUUÍM",
  "UÍSHIIÎIÎHEUXÎEUXÍKYEEÎETÍNUAEÏÎJUAEÍYOQÍSHUÍYUQÎAÍNSHAÍKEUXÍPEUXÍNJEEÎTEEÍPUEÍWUEÍPEEÍFEEÍRUÍLU",
  "ÍMIÍNIÍREUXÎAEÍKENÍNGKWAENÏGAÏAÍSHOÍPUAEÍFUÎOMÍWAÍNAÍLIÍPIÍLOQÍKOÍMBENÍRENÍMENÎAÍTIÍKIÍMOÎBAAÍTE",
  "TÍKPAÍTENÍNTUUÍSAMBAÍFAAMAEÍKOVUUÏGHOMÆCOMBINING MARK KOQNDONÕTUKWENTISÆNJAEMLIÆFULL STOPÆCOLONÈ",
  "MMAÆSEMICOLONÆQUESTION MARK#A700ÀMODIFIER LETTER CHINESE TONE YIN PINGÞANG PINGÞIN SHANGÞANG SHA",
  "NGÞIN QUÞANG QUÞIN RUÞANG RUÐEXTRA-HIGH DOTTED TONE BARÐHIGH DOTTED TONE BARÐMID DOTTED TONE BAR",
  "ÐLOW DOTTED TONE BARÐEXTRA-LOW DOTTED TONE BARÖHIGH DOTTED LEFT-STEM TONE BARÐHIGH DOTTED LEFT-S",
  "TEM TONE BARÐMID DOTTED LEFT-STEM TONE BARÐLOW DOTTED LEFT-STEM TONE BARÐEXTRA-LOW DOTTED LEFT-S",
  "TEM TONE BARÖHIGH LEFT-STEM TONE BARÐHIGH LEFT-STEM TONE BARÐMID LEFT-STEM TONE BARÐLOW LEFT-STE",
  "M TONE BARÐEXTRA-LOW LEFT-STEM TONE BARÐDOT VERTICAL BARÔSLASHÔHORIZONTAL BARÐLOWER RIGHT CORNER ",
  "ANGLEÐRAISED UP ARROW×DOWN ARROW×EXCLAMATION MARK×INVERTED EXCLAMATION MARKÐLOW INVERTED EXCLAMA",
  "TION MARKÐSTRESS AND HIGH TONEÛLOW TONEÀLATIN CAPITAL LETTER EGYPTOLOGICAL ALEFÆSMALL LETTER EGY",
  "PTOLOGICAL ALEFÆCAPITAL LETTER EGYPTOLOGICAL AINÆSMALL LETTER EGYPTOLOGICAL AINÆCAPITAL LETTER H",
  "ENGÆSMALL LETTER HENGÆCAPITAL LETTER TZÆSMALL LETTER TZÆCAPITAL LETTER TRESILLOÆSMALL LETTER TRE",
  "SILLOÆCAPITAL LETTER CUATRILLOÆSMALL LETTER CUATRILLOÆCAPITAL LETTER CUATRILLO WITH COMMAÆSMALL ",
  "LETTER CUATRILLO WITH COMMAÆLETTER SMALL CAPITAL FÛSÆCAPITAL LETTER AAÆSMALL LETTER AAÆCAPITAL L",
  "ETTER AOÆSMALL LETTER AOÆCAPITAL LETTER AUÆSMALL LETTER AUÆCAPITAL LETTER AVÆSMALL LETTER AVÆCAP",
  "ITAL LETTER AV WITH HORIZONTAL BARÆSMALL LETTER AV WITH HORIZONTAL BARÆCAPITAL LETTER AYÆSMALL L",
  "ETTER AYÆCAPITAL LETTER REVERSED C WITH DOTÆSMALL LETTER REVERSED C WITH DOTÆCAPITAL LETTER K WI",
  "TH STROKEÆSMALL LETTER K WITH STROKEÆCAPITAL LETTER K WITH DIAGONAL STROKEÆSMALL LETTER K WITH D",
  "IAGONAL STROKEÆCAPITAL LETTER K WITH STROKE AND DIAGONAL STROKEÆSMALL LETTER K WITH STROKE AND D",
  "IAGONAL STROKEÆCAPITAL LETTER BROKEN LÆSMALL LETTER BROKEN LÆCAPITAL LETTER L WITH HIGH STROKEÆS",
  "MALL LETTER L WITH HIGH STROKEÆCAPITAL LETTER O WITH LONG STROKE OVERLAYÆSMALL LETTER O WITH LON",
  "G STROKE OVERLAYÆCAPITAL LETTER O WITH LOOPÆSMALL LETTER O WITH LOOPÆCAPITAL LETTER OOÆSMALL LET",
  "TER OOÆCAPITAL LETTER P WITH STROKE THROUGH DESCENDERÆSMALL LETTER P WITH STROKE THROUGH DESCEND",
  "ERÆCAPITAL LETTER P WITH FLOURISHÆSMALL LETTER P WITH FLOURISHÆCAPITAL LETTER P WITH SQUIRREL TA",
  "ILÆSMALL LETTER P WITH SQUIRREL TAILÆCAPITAL LETTER Q WITH STROKE THROUGH DESCENDERÆSMALL LETTER ",
  "Q WITH STROKE THROUGH DESCENDERÆCAPITAL LETTER Q WITH DIAGONAL STROKEÆSMALL LETTER Q WITH DIAGON",
  "AL STROKEÆCAPITAL LETTER R ROTUNDAÆSMALL LETTER R ROTUNDAÆCAPITAL LETTER RUM ROTUNDAÆSMALL LETTE",
  "R RUM ROTUNDAÆCAPITAL LETTER V WITH DIAGONAL STROKEÆSMALL LETTER V WITH DIAGONAL STROKEÆCAPITAL ",
  "LETTER VYÆSMALL LETTER VYÆCAPITAL LETTER VISIGOTHIC ZÆSMALL LETTER VISIGOTHIC ZÆCAPITAL LETTER T",
  "HORN WITH STROKEÆSMALL LETTER THORN WITH STROKEÆCAPITAL LETTER THORN WITH STROKE THROUGH DESCEND",
  "ERÆSMALL LETTER THORN WITH STROKE THROUGH DESCENDERÆCAPITAL LETTER VENDÆSMALL LETTER VENDÆCAPITA",
  "L LETTER ETÆSMALL LETTER ETÆCAPITAL LETTER ISÆSMALL LETTER ISÆCAPITAL LETTER CONÆSMALL LETTER CO",
  "NÀMODIFIER LETTER USÀLATIN SMALL LETTER DUMÓLUMÓMUMÓNUMÓRUMÆLETTER SMALL CAPITAL RUMÆSMALL LETTE",
  "R TUMÓUMÆCAPITAL LETTER INSULAR DÆSMALL LETTER INSULAR DÆCAPITAL LETTER INSULAR FÆSMALL LETTER I",
  "NSULAR FÆCAPITAL LETTER INSULAR GÕTURNED INSULAR GÆSMALL LETTER TURNED INSULAR GÆCAPITAL LETTER ",
  "TURNED LÆSMALL LETTER TURNED LÆCAPITAL LETTER INSULAR RÆSMALL LETTER INSULAR RÆCAPITAL LETTER IN",
  "SULAR SÆSMALL LETTER INSULAR SÆCAPITAL LETTER INSULAR TÆSMALL LETTER INSULAR TÀMODIFIER LETTER L",
  "OW CIRCUMFLEX ACCENTÐCOLONÐSHORT EQUALS SIGNÀLATIN CAPITAL LETTER SALTILLOÆSMALL LETTER SALTILLO",
  "ÆCAPITAL LETTER TURNED HÆSMALL LETTER L WITH RETROFLEX HOOK AND BELTÆLETTER SINOLOGICAL DOTÆCAPI",
  "TAL LETTER N WITH DESCENDERÆSMALL LETTER N WITH DESCENDERÆCAPITAL LETTER C WITH BARÆSMALL LETTER ",
  "C WITH BARÚPALATAL HOOKÓH WITH PALATAL HOOKÆCAPITAL LETTER B WITH FLOURISHÆSMALL LETTER B WITH F",
  "LOURISHÆCAPITAL LETTER F WITH STROKEÆSMALL LETTER F WITH STROKEÆCAPITAL LETTER VOLAPUK AEÆSMALL ",
  "LETTER VOLAPUK AEÆCAPITAL LETTER VOLAPUK OEÆSMALL LETTER VOLAPUK OEÆCAPITAL LETTER VOLAPUK UEÆSM",
  "ALL LETTER VOLAPUK UEÆCAPITAL LETTER G WITH OBLIQUE STROKEÆSMALL LETTER G WITH OBLIQUE STROKEÆCA",
  "PITAL LETTER K WITH OBLIQUE STROKEÆSMALL LETTER K WITH OBLIQUE STROKEÆCAPITAL LETTER N WITH OBLI",
  "QUE STROKEÆSMALL LETTER N WITH OBLIQUE STROKEÆCAPITAL LETTER R WITH OBLIQUE STROKEÆSMALL LETTER ",
  "R WITH OBLIQUE STROKEÆCAPITAL LETTER S WITH OBLIQUE STROKEÆSMALL LETTER S WITH OBLIQUE STROKEÆCA",
  "PITAL LETTER H WITH HOOKÕREVERSED OPEN EÕSCRIPT GÕL WITH BELTÕSMALL CAPITAL IÆLETTER SMALL CAPIT",
  "AL QÆCAPITAL LETTER TURNED KÜTÕJ WITH CROSSED-TAILÕCHIÕBETAÆSMALL LETTER BETAÆCAPITAL LETTER OME",
  "GAÆSMALL LETTER OMEGAÆCAPITAL LETTER U WITH STROKEÆSMALL LETTER U WITH STROKEÆCAPITAL LETTER GLO",
  "TTAL AÆSMALL LETTER GLOTTAL AÆCAPITAL LETTER GLOTTAL IÆSMALL LETTER GLOTTAL IÆCAPITAL LETTER GLO",
  "TTAL UÆSMALL LETTER GLOTTAL UÆCAPITAL LETTER OLD POLISH OÆSMALL LETTER OLD POLISH OÆCAPITAL LETT",
  "ER ANGLICANA WÆSMALL LETTER ANGLICANA WÆCAPITAL LETTER C WITH PALATAL HOOKÕS WITH HOOKÕZ WITH PA",
  "LATAL HOOKÕD WITH SHORT STROKE OVERLAYÆSMALL LETTER D WITH SHORT STROKE OVERLAYÆCAPITAL LETTER S ",
  "WITH SHORT STROKE OVERLAYÆSMALL LETTER S WITH SHORT STROKE OVERLAY#A7D0ÆCAPITAL LETTER CLOSED IN",
  "SULAR GÆSMALL LETTER CLOSED INSULAR G#A7D3ÓDOUBLE THORN#A7D5ÚWYNNÆCAPITAL LETTER MIDDLE SCOTS SÆ",
  "SMALL LETTER MIDDLE SCOTS SÆCAPITAL LETTER SIGMOID SÆSMALL LETTER SIGMOID S#A7F2ÀMODIFIER LETTER ",
  "CAPITAL CØFØQÀLATIN CAPITAL LETTER REVERSED HALF HÆSMALL LETTER REVERSED HALF HÆEPIGRAPHIC LETTE",
  "R SIDEWAYS IÀMODIFIER LETTER CAPITAL H WITH STROKEÐSMALL LIGATURE OEÀLATIN LETTER SMALL CAPITAL ",
  "TURNED MÆEPIGRAPHIC LETTER REVERSED FáPØINVERTED MÙ LONGAØARCHAIC MÀSYLOTI NAGRI LETTER AÔIÍSIGN ",
  "DVISVARAÍLETTER UÔEÔOÍSIGN HASANTAÍLETTER KOÕHOÔGOÕHOÍSIGN ANUSVARAÍLETTER COÕHOÔJOÕHOÔTTOÖHOÔDD",
  "OÖHOÔTOÕHOÔDOÕHOÔNOÔPOÕHOÔBOÕHOÔMOÔROÔLOÔRROÔSOÔHOÍVOWEL SIGN AØIØUØEØOOÍPOETRY MARK-1Ù2Ù3Ù4ÍSIG",
  "N ALTERNATE HASANTA#A830ÀNORTH INDIC FRACTION ONE QUARTERÙHALFÕTHREE QUARTERSÕONE SIXTEENTHÙEIGH",
  "THÕTHREE SIXTEENTHSÌQUARTER MARKÌPLACEHOLDER MARKÌRUPEE MARKÌQUANTITY MARK#A840ÀPHAGS-PA LETTER ",
  "KAÑHAÐGAÐNGAÐCAÑHAÐJAÐNYAÐTAÑHAÐDAÐNAÐPAÑHAÐBAÐMAÐTSAÒHAÐDZAÐWAÐZHAÑAÐSMALL AÐYAÐRAÐLAÐSHAÑAÐHAÐ",
  "AÐIÐUÐEÐOÐQAÐXAÐFAÐGGAÐEEÉSUBJOINED LETTER WAÚYAÉLETTER TTAÒHAÐDDAÐNNAÐALTERNATE YAÐVOICELESS SH",
  "AÕD HAÐASPIRATED FAÉSUBJOINED LETTER RAËPERFIXED LETTER RAÉLETTER CANDRABINDUÉSINGLE HEAD MARKÉD",
  "OUBLE HEAD MARKÉMARK SHADÎDOUBLE SHAD#A880ÀSAURASHTRA SIGN ANUSVARAÐVISARGAËLETTER AÓAÒIÓIÒUÓUÒV",
  "OCALIC RÛRÚLÛLÒEÓEÒAIÒOÓOÒAUÒKAÓHAÒGAÓHAÒNGAÒCAÓHAÒJAÓHAÒNYAÒTTAÔHAÒDDAÔHAÒNNAÒTAÓHAÒDAÓHAÒNAÒPA",
  "ÓHAÒBAÓHAÒMAÒYAÒRAÒLAÒVAÒSHAÓSAÓAÒHAÒLLAËCONSONANT SIGN HAARUËVOWEL SIGN AAÖI×IÖU×UÖVOCALIC RßRÞ",
  "LßLÖE×EÖAIÖO×OÖAUËSIGN VIRAMAÐCANDRABINDU#A8CEËDANDAÌOUBLE DANDAÌIGIT ZEROÑONEÑTWOÒHREEÑFOURÒIVE",
  "ÑSIXÒEVENÑEIGHTÑNINE#A8E0ÀCOMBINING DEVANAGARI DIGIT ZEROÛONEÛTWOÜHREEÛFOURÜIVEÛSIXÜEVENÛEIGHTÛN",
  "INEÕLETTER AÜUÜKAÜNAÜPAÜRAÜVIÕSIGN AVAGRAHAÀDEVANAGARI SIGN SPACING CANDRABINDUÐCANDRABINDU VIRA",
  "MAÐDOUBLE CANDRABINDU VIRAMAÐCANDRABINDU TWOÝHREEÜAVAGRAHAÐPUSHPIKAËGAP FILLERËCARETËHEADSTROKEË",
  "SIGN SIDDHAMËJAIN OMËLETTER AYËVOWEL SIGN AYÀKAYAH LI DIGIT ZEROÏONEÏTWOÐHREEÏFOURÐIVEÏSIXÐEVENÏ",
  "EIGHTÏNINEÉLETTER KAÑHAÐGAÐNGAÐSAÑHAÐZAÐNYAÐTAÐHTAÐNAÐPAÑHAÐMAÐDAÐBAÐRAÐYAÐLAÐWAÐTHAÐHAÐVAÐCAÐAÐ",
  "OEÐIÐOOÉVOWEL UEÏEÏUÏEEÏOÉTONE PLOPHUÎCALYAÓ PLOPHUÉSIGN CWIÎSHYAÀREJANG LETTER KAÎGAÎNGAÎTAÎDAÎ",
  "NAÎPAÎBAÎMAÎCAÎJAÎNYAÎSAÎRAÎLAÎYAÎWAÎHAÎMBAÎNGGAÏDAÏYJAÎAÇVOWEL SIGN IÒUÒEÒAIÒOÒAUÒEUÓAÇCONSONAN",
  "T SIGN NG×ÖRÖHÇVIRAMA#A95FÇSECTION MARKÀHANGUL CHOSEONG TIKEUT-MIEUM×PIEUP×SIOS×CIEUCÐRIEUL-KIYE",
  "OKÖSSANGKIYEOKÖTIKEUTÖSSANGTIKEUTÖMIEUMÖPIEUPÖSSANGPIEUPÖKAPYEOUNPIEUPÖSIOSÖCIEUCÖKHIEUKHÐMIEUM-",
  "KIYEOKÖTIKEUTÖSIOSÐPIEUP-SIOS-THIEUTHÖKHIEUKHÖHIEUHÐSSANGSIOS-PIEUPÐIEUNG-RIEULÖHIEUHÐSSANGCIEUC",
  "-HIEUHÕTHIEUTHÐPHIEUPH-HIEUHÐHIEUH-SIOSÐSSANGYEORINHIEUH#A980ÀJAVANESE SIGN PANYANGGAÎCECAKÎLAYA",
  "RÎWIGNYANÉLETTER AÐI KAWIÑÑIÐUÐPA CEREKÐNGA LELETÙ RASWADIÐEÐAIÐOÐKAÒ SASAKÓMURDAÐGAÒ MURDAÐNGAÐ",
  "CAÒ MURDAÐJAÐNYA MURDAÐJA MAHAPRANAÐNYAÐTTAÓ MAHAPRANAÐDDAÓ MAHAPRANAÐNA MURDAÐTAÒ MURDAÐDAÒ MAH",
  "APRANAÐNAÐPAÒ MURDAÐBAÒ MURDAÐMAÐYAÐRAÒ AGUNGÐLAÐWAÐSA MURDAÔAHAPRANAÒÐHAÉSIGN CECAK TELUÉVOWEL ",
  "SIGN TARUNGÕOLONGÔWULUØ MELIKÔSUKUØ MENDUTÔTALINGÔDIRGA MUREÔPEPETÉCONSONANT SIGN KERETØPENGKALØ",
  "CAKRAÉPANGKONÉLEFT RERENGGANÉRIGHT RERENGGANÉPADA ANDAPÎMADYAÎLUHURÎWINDUÎPANGKATÎLINGSAÏUNGSIÎA",
  "DEGÒ ADEGÎPISELEHÉTURNED PADA PISELEH#A9CFÉPANGRANGKEPÉDIGIT ZEROÏONEÏTWOÐHREEÏFOURÐIVEÏSIXÐEVEN",
  "ÏEIGHTÏNINE#A9DEÉPADA TIRTA TUMETESÎISEN-ISENÀMYANMAR LETTER SHAN GHAÔCHAÔJHAÔNNAÔBHAÈSIGN SHAN ",
  "SAWÈMODIFIER LETTER SHAN REDUPLICATIONÈLETTER TAI LAING NYAÙFAÙGAÚHAÙJAÚHAÙDDAÛHAÙNNAÈTAI LAING ",
  "DIGIT ZEROØONEØTWOÙHREEØFOURÙIVEØSIXÙEVENØEIGHTØNINEÈLETTER TAI LAING LLAÙDAÚHAÙBAÚHA#AA00ÀCHAM ",
  "LETTER AÌIÌUÌEÌAIÌOÌKAÍHAÌGAÍHAÌNGUEÎAÌCHAÎHAÌJAÍHAÌNHUEÎAÎJAÌTAÍHAÌDAÍHAÌNUEÍAÌDDAÌPAÍPAÍHAÌBAÍ",
  "HAÌMUEÍAÌBBAÌYAÌRAÌLAÌVAÌSSAÍAÌHAÅVOWEL SIGN AAÐIÑIÐEIÐUÐOEÑÐAIÑUÐUEÅCONSONANT SIGN YAÔRAÔLAÔWA#",
  "AA40ÅLETTER FINAL KÒGÒNGÅCONSONANT SIGN FINAL NGÅLETTER FINAL CHÒTÒNÒPÒYÒRÒLÒSSÅCONSONANT SIGN F",
  "INAL MÚH#AA50ÅDIGIT ZEROËONEËTWOÌHREEËFOURÌIVEËSIXÌEVENËEIGHTËNINE#AA5CÅPUNCTUATION SPIRALÑDANDA",
  "ÒOUBLE DANDAÑTRIPLE DANDAÀMYANMAR LETTER KHAMTI GAÖCA×HAÖJA×HAÖNYAÖTTAØHAÖDDAØHA×HAÖNAÖSAÖHA×HAÖ",
  "FAÈMODIFIER LETTER KHAMTI REDUPLICATIONÈLETTER KHAMTI XAÖZAÖRAÉOGOGRAM KHAMTI OAYØQNØHMÈSYMBOL A",
  "ITON EXCLAMATIONÕONEÕTWOÈLETTER AITON RAÈSIGN PAO KAREN TONEÍTAI LAING TONE-2Ü5ÈLETTER SHWE PALA",
  "UNG CHAÜSHAÀTAI VIET LETTER LOW KOÐHIGH KOÐLOW KHOÐHIGH KHOÐLOW KHHOÐHIGH KHHOÐLOW GOÐHIGH GOÐLO",
  "W NGOÐHIGH NGOÐLOW COÐHIGH COÐLOW CHOÐHIGH CHOÐLOW SOÐHIGH SOÐLOW NYOÐHIGH NYOÐLOW DOÐHIGH DOÐLO",
  "W TOÐHIGH TOÐLOW THOÐHIGH THOÐLOW NOÐHIGH NOÐLOW BOÐHIGH BOÐLOW POÐHIGH POÐLOW PHOÐHIGH PHOÐLOW ",
  "FOÐHIGH FOÐLOW MOÐHIGH MOÐLOW YOÐHIGH YOÐLOW ROÐHIGH ROÐLOW LOÐHIGH LOÐLOW VOÐHIGH VOÐLOW HOÐHIG",
  "H HOÐLOW OÐHIGH OÉMAI KANGÉVOWEL AAÏIÏUEÐÏEÏOÉMAI KHITÉVOWEL IAÏUEAÐAÏAUEÐYÐNÐMÉTONE MAI EKÒNUEN",
  "GÒTHOÒSONG#AADBÉSYMBOL KONÐNUENGÐSAMÐHO HOIÐKOI KOIÀMEETEI MAYEK LETTER EÔOÔCHAÔNYAÔTTAÖHAÔDDAÖH",
  "AÔNNAÔSHAÕSAÍVOWEL SIGN IIØUUØAAIÙUÙAUÍCHEIKHANÍAHANG KHUDAMÎNJIÍSYLLABLE REPETITION MARKÍWORD R",
  "EPETITION MARKÍVOWEL SIGN VISARGAÎIRAMA#AB01ÀETHIOPIC SYLLABLE TTHUÕIÕAAÕEEÖÕO#AB09ÒDDHUÕIÕAAÕEE",
  "ÖÕO#AB11ÓZUÔIÔAAÔEEÕÔO#AB20ÒCCHHAÖUÖIÖAAÖEE×ÖO#AB28ÒBBAÔUÔIÔAAÔEEÕÔO#AB30ÀLATIN SMALL LETTER BAR",
  "RED ALPHAÓA REVERSED-SCHWAÓBLACKLETTER EÔARRED EÓE WITH FLOURISHÓLENIS FÓSCRIPT G WITH CROSSED-T",
  "AILÓL WITH INVERTED LAZY SÚDOUBLE MIDDLE TILDEÚMIDDLE RINGÓM WITH CROSSED-TAILÓN WITH CROSSED-TA",
  "ILÓENG WITH CROSSED-TAILÓBLACKLETTER Oà WITH STROKEÓOPEN O WITH STROKEÓINVERTED OEÓTURNED OE WIT",
  "H STROKEâHORIZONTAL STROKEÛ OPEN-Oâ WITH STROKEÓSTIRRUP RÆLETTER SMALL CAPITAL R WITH RIGHT LEGÆ",
  "SMALL LETTER R WITHOUT HANDLEÓDOUBLE RÓR WITH CROSSED-TAILÓDOUBLE R WITH CROSSED-TAILÓSCRIPT RÛ ",
  "WITH RINGÓBASELINE ESHÓU WITH SHORT RIGHT LEGÕBAR WITH SHORT RIGHT LEGÔIÓTURNED UIÓU WITH LEFT H",
  "OOKÓCHIÖ WITH LOW RIGHT RINGàLEFT SERIFÓX WITH LOW RIGHT RINGÜNG LEFT LEGç AND LOW RIGHT RINGèWI",
  "TH SERIFÓY WITH SHORT RIGHT LEGÀMODIFIER BREVE WITH INVERTED BREVEÉLETTER SMALL HENGÖL WITH INVE",
  "RTED LAZY SÝMIDDLE TILDEÖU WITH LEFT HOOKÀLATIN SMALL LETTER SAKHA YATÓIOTIFIED EÓOPEN OEÓUOÓINV",
  "ERTED ALPHAÀGREEK LETTER SMALL CAPITAL OMEGAÀLATIN SMALL LETTER DZ DIGRAPH WITH RETROFLEX HOOKÓT",
  "S DIGRAPH WITH RETROFLEX HOOKÔURNED R WITH MIDDLE TILDEÀMODIFIER LETTER SMALL TURNED WÐLEFT TACK",
  "ÐRIGHT TACK#AB70ÀCHEROKEE SMALL LETTER AÖEÖIÖOÖUÖVÖGAÖKAÖGE×I×O×U×VÖHA×E×I×O×U×VÖLA×E×I×O×U×VÖMA",
  "×E×I×O×UÖNAÖHNAÖNAH×E×I×O×U×VÖQUAØEØIØOØUØVÖSA××E×I×O×U×VÖDAÖTAÖDEÖTEÖDIÖTIÖDO×U×V×LAÖTLAØEØIØOØ",
  "UØV×SAØEØIØOØUØVÖWA×E×I×O×U×VÖYAÀMEETEI MAYEK LETTER KOKÔSAMÔLAIÔMITÔPAÔNAÔCHILÔTILÔKHOUÔNGOUÔTH",
  "OUÔWAIÔYANGÔHUKÔUNÔIÔPHAMÔATIYAÔGOKÔJHAMÔRAIÔBAÔJILÔDILÔGHOUÔDHOUÔBHAMÔKOK LONSUMÔLAI LONSUMÔMIT ",
  "LONSUMÔPA LONSUMÔNA LONSUMÔTIL LONSUMÔNGOU LONSUMÔI LONSUMÍVOWEL SIGN ONAPØINAPØANAPØYENAPØSOUNA",
  "PØUNAPØCHEINAPØNUNGÍCHEIKHEIÍLUM IYEKÍAPUN IYEK#ABF0ÍDIGIT ZEROÓONEÓTWOÔHREEÓFOURÔIVEÓSIXÔEVENÓE",
  "IGHTÓNINE#D7B0ÀHANGUL JUNGSEONG O-YEOÓO-IÑYO-AÕEÔEOÑU-YEOÓI-IÑYU-AEÔOÑEU-AÔEOÕÔOÑI-YA-OÕEÔEOÕÓO-",
  "IÓYOÔUÓIÑARAEA-A×E#D7CBÈONGSEONG NIEUN-RIEUL×CHIEUCHÑSSANGTIKEUTÜ-PIEUPÑTIKEUT-PIEUPØSIOSÜ-KIYEO",
  "KØCIEUCÙHIEUCHØTHIEUTHÑRIEUL-SSANGKIYEOK×KIYEOK-HIEUHÑSSANGRIEUL-KHIEUKHÑRIEUL-MIEUM-HIEUH×PIEUP",
  "-TIKEUTÝPHIEUPH×YESIEUNGÙORINHIEUH-HIEUHÑKAPYEOUNRIEULÑMIEUM-NIEUN×SSANGNIEUNÑSSANGMIEUMÑMIEUM-P",
  "IEUP-SIOS×CIEUCÑPIEUP-TIKEUT×RIEUL-PHIEUPH×MIEUMÑSSANGPIEUPÑPIEUP-SIOS-TIKEUT×CIEUCØHIEUCHÑSIOS-",
  "MIEUMÖKAPYEOUNPIEUPÒSANGSIOS-KIYEOKÛTIKEUTÒIOS-PANSIOSÖCIEUC×HIEUCHÖTHIEUTHÖHIEUHÑPANSIOS-PIEUPÙ",
  "KAPYEOUNPIEUPÑYESIEUNG-MIEUMÚHIEUHÑCIEUC-PIEUP×SSANGPIEUPÑSSANGCIEUCÑPHIEUPH-SIOSÙTHIEUTH#F900ÀC",
  "JK COMPATIBILITY IDEOGRAPH-F900ß1ß2ß3ß4ß5ß6ß7ß8ß9ßAßBßCßDßEßFÞ10ß1ß2ß3ß4ß5ß6ß7ß8ß9ßAßBßCßDßEßFÞ2",
  "0ß1ß2ß3ß4ß5ß6ß7ß8ß9ßAßBßCßDßEßFÞ30ß1ß2ß3ß4ß5ß6ß7ß8ß9ßAßBßCßDßEßFÞ40ß1ß2ß3ß4ß5ß6ß7ß8ß9ßAßBßCßDßEß",
  "FÞ50ß1ß2ß3ß4ß5ß6ß7ß8ß9ßAßBßCßDßEßFÞ60ß1ß2ß3ß4ß5ß6ß7ß8ß9ßAßBßCßDßEßFÞ70ß1ß2ß3ß4ß5ß6ß7ß8ß9ßAßBßCßD",
  "ßEßFÞ80ß1ß2ß3ß4ß5ß6ß7ß8ß9ßAßBßCßDßEßFÞ90ß1ß2ß3ß4ß5ß6ß7ß8ß9ßAßBßCßDßEßFÞA0ß1ß2ß3ß4ß5ß6ß7ß8ß9ßAßBß",
  "CßDßEßFÞB0ß1ß2ß3ß4ß5ß6ß7ß8ß9ßAßBßCßDßEßFÞC0ß1ß2ß3ß4ß5ß6ß7ß8ß9ßAßBßCßDßEßFÞD0ß1ß2ß3ß4ß5ß6ß7ß8ß9ßA",
  "ßBßCßDßEßFÞE0ß1ß2ß3ß4ß5ß6ß7ß8ß9ßAßBßCßDßEßFÞF0ß1ß2ß3ß4ß5ß6ß7ß8ß9ßAßBßCßDßEßFÝA00ß1ß2ß3ß4ß5ß6ß7ß8",
  "ß9ßAßBßCßDßEßFÞ10ß1ß2ß3ß4ß5ß6ß7ß8ß9ßAßBßCßDßEßFÞ20ß1ß2ß3ß4ß5ß6ß7ß8ß9ßAßBßCßDßEßFÞ30ß1ß2ß3ß4ß5ß6ß",
  "7ß8ß9ßAßBßCßDßEßFÞ40ß1ß2ß3ß4ß5ß6ß7ß8ß9ßAßBßCßDßEßFÞ50ß1ß2ß3ß4ß5ß6ß7ß8ß9ßAßBßCßDßEßFÞ60ß1ß2ß3ß4ß5",
  "ß6ß7ß8ß9ßAßBßCßD#FA70Þ70ß1ß2ß3ß4ß5ß6ß7ß8ß9ßAßBßCßDßEßFÞ80ß1ß2ß3ß4ß5ß6ß7ß8ß9ßAßBßCßDßEßFÞ90ß1ß2ß3",
  "ß4ß5ß6ß7ß8ß9ßAßBßCßDßEßFÞA0ß1ß2ß3ß4ß5ß6ß7ß8ß9ßAßBßCßDßEßFÞB0ß1ß2ß3ß4ß5ß6ß7ß8ß9ßAßBßCßDßEßFÞC0ß1ß",
  "2ß3ß4ß5ß6ß7ß8ß9ßAßBßCßDßEßFÞD0ß1ß2ß3ß4ß5ß6ß7ß8ß9#FB00ÀLATIN SMALL LIGATURE FFÖIÖLÖFI×LÕLONG S TÕ",
  "ST#FB13ÀARMENIAN SMALL LIGATURE MEN NOWÜECHÜINIØVEW NOWØMEN XEH#FB1DÀHEBREW LETTER YOD WITH HIRI",
  "QÇPOINT JUDEO-SPANISH VARIKAÇLIGATURE YIDDISH YOD YOD PATAHÈETTER ALTERNATIVE AYINÎWIDE ALEFÓDAL",
  "ETÓHEÓKAFÓLAMEDÓFINAL MEMÓRESHÓTAVÎALTERNATIVE PLUS SIGNÎSHIN WITH SHIN DOTÙIN DOTØDAGESH AND SH",
  "IN DOTäIN DOTÎALEF WITH PATAHØQAMATSØMAPIQÎBET WITH DAGESHÎGIMEL WITH DAGESHÎDALET WITH DAGESHÎH",
  "E WITH MAPIQÎVAV WITH DAGESHÎZAYIN WITH DAGESH#FB38ÎTET WITH DAGESHÎYOD WITH DAGESHÎFINAL KAF WI",
  "TH DAGESHÎKAF WITH DAGESHÎLAMED WITH DAGESH#FB3EÎMEM WITH DAGESH#FB40ÎNUN WITH DAGESHÎSAMEKH WIT",
  "H DAGESH#FB43ÎFINAL PE WITH DAGESHÎPE WITH DAGESH#FB46ÎTSADI WITH DAGESHÎQOF WITH DAGESHÎRESH WI",
  "TH DAGESHÎSHIN WITH DAGESHÎTAV WITH DAGESHÎVAV WITH HOLAMÎBET WITH RAFEÎKAF WITH RAFEÎPE WITH RA",
  "FEÈIGATURE ALEF LAMEDÀARABIC LETTER ALEF WASLA ISOLATED FORMÙFINAL FORMÎBEEH ISOLATED FORMÓFINAL ",
  "FORMÓINITIAL FORMÓMEDIAL FORMÎPEH ISOLATED FORMÒFINAL FORMÒINITIAL FORMÒMEDIAL FORMÎBEHEH ISOLAT",
  "ED FORMÔFINAL FORMÔINITIAL FORMÔMEDIAL FORMÎTTEHEH ISOLATED FORMÕFINAL FORMÕINITIAL FORMÕMEDIAL ",
  "FORMÏEHEH ISOLATED FORMÔFINAL FORMÔINITIAL FORMÔMEDIAL FORMÏTEH ISOLATED FORMÓFINAL FORMÓINITIAL ",
  "FORMÓMEDIAL FORMÎVEH ISOLATED FORMÒFINAL FORMÒINITIAL FORMÒMEDIAL FORMÎPEHEH ISOLATED FORMÔFINAL ",
  "FORMÔINITIAL FORMÔMEDIAL FORMÎDYEH ISOLATED FORMÓFINAL FORMÓINITIAL FORMÓMEDIAL FORMÎNYEH ISOLAT",
  "ED FORMÓFINAL FORMÓINITIAL FORMÓMEDIAL FORMÎTCHEH ISOLATED FORMÔFINAL FORMÔINITIAL FORMÔMEDIAL F",
  "ORMÓEH ISOLATED FORMÖFINAL FORMÖINITIAL FORMÖMEDIAL FORMÎDDAHAL ISOLATED FORMÕFINAL FORMÏAHAL IS",
  "OLATED FORMÔFINAL FORMÏUL ISOLATED FORMÒFINAL FORMÏDAL ISOLATED FORMÓFINAL FORMÎJEH ISOLATED FOR",
  "MÒFINAL FORMÎRREH ISOLATED FORMÓFINAL FORMÎKEHEH ISOLATED FORMÔFINAL FORMÔINITIAL FORMÔMEDIAL FO",
  "RMÎGAF ISOLATED FORMÒFINAL FORMÒINITIAL FORMÒMEDIAL FORMÏUEH ISOLATED FORMÓFINAL FORMÓINITIAL FO",
  "RMÓMEDIAL FORMÎNGOEH ISOLATED FORMÔFINAL FORMÔINITIAL FORMÔMEDIAL FORMÏOON GHUNNA ISOLATED FORMÚ",
  "FINAL FORMÎRNOON ISOLATED FORMÔFINAL FORMÔINITIAL FORMÔMEDIAL FORMÎHEH WITH YEH ABOVE ISOLATED F",
  "ORMáFINAL FORMÒGOAL ISOLATED FORM×FINAL FORM×INITIAL FORM×MEDIAL FORMÒDOACHASHMEE ISOLATED FORMÞ",
  "FINAL FORMÞINITIAL FORMÞMEDIAL FORMÎYEH BARREE ISOLATED FORMÙFINAL FORMÙWITH HAMZA ABOVE ISOLATE",
  "D FORMêFINAL FORMÇSYMBOL DOT ABOVEÒBELOWÎTWO DOTS ABOVE×BELOWÏHREE DOTS ABOVEÙBELOWÙPOINTING DOW",
  "NWARDS ABOVEìBELOWÎFOUR DOTS ABOVEØBELOWÎDOUBLE VERTICAL BAR BELOWÎTWO DOTS VERTICALLY ABOVEâBEL",
  "OWÎRINGÎSMALL TAH ABOVEØBELOWÎWASLA ABOVE#FBD3ÇLETTER NG ISOLATED FORMÑFINAL FORMÑINITIAL FORMÑM",
  "EDIAL FORMÎU ISOLATED FORMÐFINAL FORMÎOE ISOLATED FORMÑFINAL FORMÎYU ISOLATED FORMÑFINAL FORMÎU ",
  "WITH HAMZA ABOVE ISOLATED FORMÎVE ISOLATED FORMÑFINAL FORMÎKIRGHIZ OE ISOLATED FORMÙFINAL FORMÖY",
  "U ISOLATED FORMÙFINAL FORMÎE ISOLATED FORMÐFINAL FORMÐINITIAL FORMÐMEDIAL FORMÎUIGHUR KAZAKH KIR",
  "GHIZ ALEF MAKSURA INITIAL FORMñMEDIAL FORMÈIGATURE YEH WITH HAMZA ABOVE WITH ALEF ISOLATED FORMï",
  "FINAL FORMëE ISOLATED FORMíFINAL FORMêWAW ISOLATED FORMîFINAL FORMêU ISOLATED FORMìFINAL FORMêOE ",
  "ISOLATED FORMíFINAL FORMêYU ISOLATED FORMíFINAL FORMêE ISOLATED FORMìFINAL FORMìINITIAL FORMÐUIG",
  "HUR KIRGHIZ YEH WITH HAMZA ABOVE WITH ALEF MAKSURA ISOLATED FORMĆFINAL FORMĆINITIAL FORMÈETTER F",
  "ARSI YEH ISOLATED FORMØFINAL FORMØINITIAL FORMØMEDIAL FORMÈIGATURE YEH WITH HAMZA ABOVE WITH JEE",
  "M ISOLATED FORMêHAH ISOLATED FORMêMEEM ISOLATED FORMêALEF MAKSURA ISOLATED FORMêYEH ISOLATED FOR",
  "MÐBEH WITH JEEM ISOLATED FORMÙHAH ISOLATED FORMÙKHAH ISOLATED FORMÙMEEM ISOLATED FORMÙALEF MAKSU",
  "RA ISOLATED FORMÙYEH ISOLATED FORMÐTEH WITH JEEM ISOLATED FORMÙHAH ISOLATED FORMÙKHAH ISOLATED F",
  "ORMÙMEEM ISOLATED FORMÙALEF MAKSURA ISOLATED FORMÙYEH ISOLATED FORMÑHEH WITH JEEM ISOLATED FORMÚ",
  "MEEM ISOLATED FORMÚALEF MAKSURA ISOLATED FORMÚYEH ISOLATED FORMÐJEEM WITH HAH ISOLATED FORMÚMEEM ",
  "ISOLATED FORMÐHAH WITH JEEM ISOLATED FORMÙMEEM ISOLATED FORMÐKHAH WITH JEEM ISOLATED FORMÚHAH IS",
  "OLATED FORMÚMEEM ISOLATED FORMÐSEEN WITH JEEM ISOLATED FORMÚHAH ISOLATED FORMÚKHAH ISOLATED FORM",
  "ÚMEEM ISOLATED FORMÑAD WITH HAH ISOLATED FORMÙMEEM ISOLATED FORMÐDAD WITH JEEM ISOLATED FORMÙHAH ",
  "ISOLATED FORMÙKHAH ISOLATED FORMÙMEEM ISOLATED FORMÐTAH WITH HAH ISOLATED FORMÙMEEM ISOLATED FOR",
  "MÐZAH WITH MEEM ISOLATED FORMÐAIN WITH JEEM ISOLATED FORMÙMEEM ISOLATED FORMÐGHAIN WITH JEEM ISO",
  "LATED FORMÛMEEM ISOLATED FORMÐFEH WITH JEEM ISOLATED FORMÙHAH ISOLATED FORMÙKHAH ISOLATED FORMÙM",
  "EEM ISOLATED FORMÙALEF MAKSURA ISOLATED FORMÙYEH ISOLATED FORMÐQAF WITH HAH ISOLATED FORMÙMEEM I",
  "SOLATED FORMÙALEF MAKSURA ISOLATED FORMÙYEH ISOLATED FORMÐKAF WITH ALEF ISOLATED FORMÙJEEM ISOLA",
  "TED FORMÙHAH ISOLATED FORMÙKHAH ISOLATED FORMÙLAM ISOLATED FORMÙMEEM ISOLATED FORMÙALEF MAKSURA ",
  "ISOLATED FORMÙYEH ISOLATED FORMÐLAM WITH JEEM ISOLATED FORMÙHAH ISOLATED FORMÙKHAH ISOLATED FORM",
  "ÙMEEM ISOLATED FORMÙALEF MAKSURA ISOLATED FORMÙYEH ISOLATED FORMÐMEEM WITH JEEM ISOLATED FORMÚHA",
  "H ISOLATED FORMÚKHAH ISOLATED FORMÚMEEM ISOLATED FORMÚALEF MAKSURA ISOLATED FORMÚYEH ISOLATED FO",
  "RMÐNOON WITH JEEM ISOLATED FORMÚHAH ISOLATED FORMÚKHAH ISOLATED FORMÚMEEM ISOLATED FORMÚALEF MAK",
  "SURA ISOLATED FORMÚYEH ISOLATED FORMÐHEH WITH JEEM ISOLATED FORMÙMEEM ISOLATED FORMÙALEF MAKSURA ",
  "ISOLATED FORMÙYEH ISOLATED FORMÐYEH WITH JEEM ISOLATED FORMÙHAH ISOLATED FORMÙKHAH ISOLATED FORM",
  "ÙMEEM ISOLATED FORMÙALEF MAKSURA ISOLATED FORMÙYEH ISOLATED FORMÐTHAL WITH SUPERSCRIPT ALEF ISOL",
  "ATED FORMÐREH WITH SUPERSCRIPT ALEF ISOLATED FORMÐALEF MAKSURA WITH SUPERSCRIPT ALEF ISOLATED FO",
  "RMÐSHADDA WITH DAMMATAN ISOLATED FORMÜKASRATAN ISOLATED FORMÜFATHA ISOLATED FORMÜDAMMA ISOLATED ",
  "FORMÜKASRA ISOLATED FORMÜSUPERSCRIPT ALEF ISOLATED FORMÐYEH WITH HAMZA ABOVE WITH REH FINAL FORM",
  "êZAIN FINAL FORMêMEEM FINAL FORMêNOON FINAL FORMêALEF MAKSURA FINAL FORMêYEH FINAL FORMÐBEH WITH ",
  "REH FINAL FORMÙZAIN FINAL FORMÙMEEM FINAL FORMÙNOON FINAL FORMÙALEF MAKSURA FINAL FORMÙYEH FINAL ",
  "FORMÐTEH WITH REH FINAL FORMÙZAIN FINAL FORMÙMEEM FINAL FORMÙNOON FINAL FORMÙALEF MAKSURA FINAL ",
  "FORMÙYEH FINAL FORMÑHEH WITH REH FINAL FORMÚZAIN FINAL FORMÚMEEM FINAL FORMÚNOON FINAL FORMÚALEF ",
  "MAKSURA FINAL FORMÚYEH FINAL FORMÐFEH WITH ALEF MAKSURA FINAL FORMÙYEH FINAL FORMÐQAF WITH ALEF ",
  "MAKSURA FINAL FORMÙYEH FINAL FORMÐKAF WITH ALEF FINAL FORMÙLAM FINAL FORMÙMEEM FINAL FORMÙALEF M",
  "AKSURA FINAL FORMÙYEH FINAL FORMÐLAM WITH MEEM FINAL FORMÙALEF MAKSURA FINAL FORMÙYEH FINAL FORM",
  "ÐMEEM WITH ALEF FINAL FORMÚMEEM FINAL FORMÐNOON WITH REH FINAL FORMÚZAIN FINAL FORMÚMEEM FINAL F",
  "ORMÚNOON FINAL FORMÚALEF MAKSURA FINAL FORMÚYEH FINAL FORMÐALEF MAKSURA WITH SUPERSCRIPT ALEF FI",
  "NAL FORMÐYEH WITH REH FINAL FORMÙZAIN FINAL FORMÙMEEM FINAL FORMÙNOON FINAL FORMÙALEF MAKSURA FI",
  "NAL FORMÙYEH FINAL FORMÙHAMZA ABOVE WITH JEEM INITIAL FORMêHAH INITIAL FORMêKHAH INITIAL FORMêME",
  "EM INITIAL FORMêHEH INITIAL FORMÐBEH WITH JEEM INITIAL FORMÙHAH INITIAL FORMÙKHAH INITIAL FORMÙM",
  "EEM INITIAL FORMÙHEH INITIAL FORMÐTEH WITH JEEM INITIAL FORMÙHAH INITIAL FORMÙKHAH INITIAL FORMÙ",
  "MEEM INITIAL FORMÙHEH INITIAL FORMÑHEH WITH MEEM INITIAL FORMÐJEEM WITH HAH INITIAL FORMÚMEEM IN",
  "ITIAL FORMÐHAH WITH JEEM INITIAL FORMÙMEEM INITIAL FORMÐKHAH WITH JEEM INITIAL FORMÚMEEM INITIAL ",
  "FORMÐSEEN WITH JEEM INITIAL FORMÚHAH INITIAL FORMÚKHAH INITIAL FORMÚMEEM INITIAL FORMÑAD WITH HA",
  "H INITIAL FORMÙKHAH INITIAL FORMÙMEEM INITIAL FORMÐDAD WITH JEEM INITIAL FORMÙHAH INITIAL FORMÙK",
  "HAH INITIAL FORMÙMEEM INITIAL FORMÐTAH WITH HAH INITIAL FORMÐZAH WITH MEEM INITIAL FORMÐAIN WITH ",
  "JEEM INITIAL FORMÙMEEM INITIAL FORMÐGHAIN WITH JEEM INITIAL FORMÛMEEM INITIAL FORMÐFEH WITH JEEM ",
  "INITIAL FORMÙHAH INITIAL FORMÙKHAH INITIAL FORMÙMEEM INITIAL FORMÐQAF WITH HAH INITIAL FORMÙMEEM ",
  "INITIAL FORMÐKAF WITH JEEM INITIAL FORMÙHAH INITIAL FORMÙKHAH INITIAL FORMÙLAM INITIAL FORMÙMEEM ",
  "INITIAL FORMÐLAM WITH JEEM INITIAL FORMÙHAH INITIAL FORMÙKHAH INITIAL FORMÙMEEM INITIAL FORMÙHEH ",
  "INITIAL FORMÐMEEM WITH JEEM INITIAL FORMÚHAH INITIAL FORMÚKHAH INITIAL FORMÚMEEM INITIAL FORMÐNO",
  "ON WITH JEEM INITIAL FORMÚHAH INITIAL FORMÚKHAH INITIAL FORMÚMEEM INITIAL FORMÚHEH INITIAL FORMÐ",
  "HEH WITH JEEM INITIAL FORMÙMEEM INITIAL FORMÙSUPERSCRIPT ALEF INITIAL FORMÐYEH WITH JEEM INITIAL ",
  "FORMÙHAH INITIAL FORMÙKHAH INITIAL FORMÙMEEM INITIAL FORMÙHEH INITIAL FORMÚAMZA ABOVE WITH MEEM ",
  "MEDIAL FORMêHEH MEDIAL FORMÐBEH WITH MEEM MEDIAL FORMÙHEH MEDIAL FORMÐTEH WITH MEEM MEDIAL FORMÙ",
  "HEH MEDIAL FORMÑHEH WITH MEEM MEDIAL FORMÚHEH MEDIAL FORMÐSEEN WITH MEEM MEDIAL FORMÚHEH MEDIAL ",
  "FORMÑHEEN WITH MEEM MEDIAL FORMÛHEH MEDIAL FORMÐKAF WITH LAM MEDIAL FORMÙMEEM MEDIAL FORMÐLAM WI",
  "TH MEEM MEDIAL FORMÐNOON WITH MEEM MEDIAL FORMÚHEH MEDIAL FORMÐYEH WITH MEEM MEDIAL FORMÙHEH MED",
  "IAL FORMÐSHADDA WITH FATHA MEDIAL FORMÜDAMMA MEDIAL FORMÜKASRA MEDIAL FORMÐTAH WITH ALEF MAKSURA ",
  "ISOLATED FORMÙYEH ISOLATED FORMÐAIN WITH ALEF MAKSURA ISOLATED FORMÙYEH ISOLATED FORMÐGHAIN WITH ",
  "ALEF MAKSURA ISOLATED FORMÛYEH ISOLATED FORMÐSEEN WITH ALEF MAKSURA ISOLATED FORMÚYEH ISOLATED F",
  "ORMÑHEEN WITH ALEF MAKSURA ISOLATED FORMÛYEH ISOLATED FORMÐHAH WITH ALEF MAKSURA ISOLATED FORMÙY",
  "EH ISOLATED FORMÐJEEM WITH ALEF MAKSURA ISOLATED FORMÚYEH ISOLATED FORMÐKHAH WITH ALEF MAKSURA I",
  "SOLATED FORMÚYEH ISOLATED FORMÐSAD WITH ALEF MAKSURA ISOLATED FORMÙYEH ISOLATED FORMÐDAD WITH AL",
  "EF MAKSURA ISOLATED FORMÙYEH ISOLATED FORMÐSHEEN WITH JEEM ISOLATED FORMÛHAH ISOLATED FORMÛKHAH ",
  "ISOLATED FORMÛMEEM ISOLATED FORMÛREH ISOLATED FORMÑEEN WITH REH ISOLATED FORMÑAD WITH REH ISOLAT",
  "ED FORMÐDAD WITH REH ISOLATED FORMÐTAH WITH ALEF MAKSURA FINAL FORMÙYEH FINAL FORMÐAIN WITH ALEF ",
  "MAKSURA FINAL FORMÙYEH FINAL FORMÐGHAIN WITH ALEF MAKSURA FINAL FORMÛYEH FINAL FORMÐSEEN WITH AL",
  "EF MAKSURA FINAL FORMÚYEH FINAL FORMÑHEEN WITH ALEF MAKSURA FINAL FORMÛYEH FINAL FORMÐHAH WITH A",
  "LEF MAKSURA FINAL FORMÙYEH FINAL FORMÐJEEM WITH ALEF MAKSURA FINAL FORMÚYEH FINAL FORMÐKHAH WITH ",
  "ALEF MAKSURA FINAL FORMÚYEH FINAL FORMÐSAD WITH ALEF MAKSURA FINAL FORMÙYEH FINAL FORMÐDAD WITH ",
  "ALEF MAKSURA FINAL FORMÙYEH FINAL FORMÐSHEEN WITH JEEM FINAL FORMÛHAH FINAL FORMÛKHAH FINAL FORM",
  "ÛMEEM FINAL FORMÛREH FINAL FORMÑEEN WITH REH FINAL FORMÑAD WITH REH FINAL FORMÐDAD WITH REH FINA",
  "L FORMÐSHEEN WITH JEEM INITIAL FORMÛHAH INITIAL FORMÛKHAH INITIAL FORMÛMEEM INITIAL FORMÑEEN WIT",
  "H HEH INITIAL FORMÑHEEN WITH HEH INITIAL FORMÐTAH WITH MEEM INITIAL FORMÐSEEN WITH JEEM MEDIAL F",
  "ORMÚHAH MEDIAL FORMÚKHAH MEDIAL FORMÑHEEN WITH JEEM MEDIAL FORMÛHAH MEDIAL FORMÛKHAH MEDIAL FORM",
  "ÐTAH WITH MEEM MEDIAL FORMÐZAH WITH MEEM MEDIAL FORMÐALEF WITH FATHATAN FINAL FORMãISOLATED FORM",
  "ÀORNATE LEFT PARENTHESISÇRIGHT PARENTHESISÀARABIC LIGATURE RAHIMAHU ALLAAHÒDI ALLAAHU ANHàAAàUMâ",
  "AAáNNAÐSALLALLAAHU ALAYHI WA-AALIHÐALAYHI AS-SALAAMÖM AS-SALAAM×AA AS-SALAAMÖ AS-SALAATU WAS-SAL",
  "AAMÐQUDDISA SIRRAHÐSALLALLAHU ALAYHI WAAALIHEE WA-SALLAMÐALAYHAA AS-SALAAMÐTABAARAKA WA-TAAALAAÐ",
  "RAHIMAHUM ALLAAHÐTEH WITH JEEM WITH MEEM INITIAL FORMÙHAH WITH JEEM FINAL FORMçINITIAL FORMâMEEM ",
  "INITIAL FORMÙKHAH WITH MEEM INITIAL FORMÙMEEM WITH JEEM INITIAL FORMãHAH INITIAL FORMãKHAH INITI",
  "AL FORMÐJEEM WITH MEEM WITH HAH FINAL FORMèINITIAL FORMÐHAH WITH MEEM WITH YEH FINAL FORMãALEF M",
  "AKSURA FINAL FORMÐSEEN WITH HAH WITH JEEM INITIAL FORMÚJEEM WITH HAH INITIAL FORMäALEF MAKSURA F",
  "INAL FORMÚMEEM WITH HAH FINAL FORMèINITIAL FORMäJEEM INITIAL FORMäMEEM FINAL FORMéINITIAL FORMÑA",
  "D WITH HAH WITH HAH FINAL FORMæINITIAL FORMÙMEEM WITH MEEM FINAL FORMÑHEEN WITH HAH WITH MEEM FI",
  "NAL FORMéINITIAL FORMÛJEEM WITH YEH FINAL FORMÛMEEM WITH KHAH FINAL FORMêINITIAL FORMåMEEM FINAL ",
  "FORMêINITIAL FORMÐDAD WITH HAH WITH ALEF MAKSURA FINAL FORMÙKHAH WITH MEEM FINAL FORMèINITIAL FO",
  "RMÐTAH WITH MEEM WITH HAH FINAL FORMçINITIAL FORMãMEEM INITIAL FORMãYEH FINAL FORMÐAIN WITH JEEM ",
  "WITH MEEM FINAL FORMÙMEEM WITH MEEM FINAL FORMèINITIAL FORMãALEF MAKSURA FINAL FORMÐGHAIN WITH M",
  "EEM WITH MEEM FINAL FORMåYEH FINAL FORMåALEF MAKSURA FINAL FORMÐFEH WITH KHAH WITH MEEM FINAL FO",
  "RMèINITIAL FORMÐQAF WITH MEEM WITH HAH FINAL FORMãMEEM FINAL FORMÐLAM WITH HAH WITH MEEM FINAL F",
  "ORMâYEH FINAL FORMâALEF MAKSURA FINAL FORMÙJEEM WITH JEEM INITIAL FORMèFINAL FORMÙKHAH WITH MEEM ",
  "FINAL FORMèINITIAL FORMÙMEEM WITH HAH FINAL FORMçINITIAL FORMÐMEEM WITH HAH WITH JEEM INITIAL FO",
  "RMãMEEM INITIAL FORMãYEH FINAL FORMÚJEEM WITH HAH INITIAL FORMäMEEM INITIAL FORMÚKHAH WITH JEEM ",
  "INITIAL FORMäMEEM INITIAL FORM#FD92ÚJEEM WITH KHAH INITIAL FORMÐHEH WITH MEEM WITH JEEM INITIAL ",
  "FORMãMEEM INITIAL FORMÐNOON WITH HAH WITH MEEM INITIAL FORMãALEF MAKSURA FINAL FORMÚJEEM WITH ME",
  "EM FINAL FORMéINITIAL FORMäALEF MAKSURA FINAL FORMÚMEEM WITH YEH FINAL FORMäALEF MAKSURA FINAL F",
  "ORMÐYEH WITH MEEM WITH MEEM FINAL FORMèINITIAL FORMÐBEH WITH KHAH WITH YEH FINAL FORMÐTEH WITH J",
  "EEM WITH YEH FINAL FORMãALEF MAKSURA FINAL FORMÙKHAH WITH YEH FINAL FORMãALEF MAKSURA FINAL FORM",
  "ÙMEEM WITH YEH FINAL FORMãALEF MAKSURA FINAL FORMÐJEEM WITH MEEM WITH YEH FINAL FORMÚHAH WITH AL",
  "EF MAKSURA FINAL FORMÚMEEM WITH ALEF MAKSURA FINAL FORMÐSEEN WITH KHAH WITH ALEF MAKSURA FINAL F",
  "ORMÑAD WITH HAH WITH YEH FINAL FORMÑHEEN WITH HAH WITH YEH FINAL FORMÐDAD WITH HAH WITH YEH FINA",
  "L FORMÐLAM WITH JEEM WITH YEH FINAL FORMÙMEEM WITH YEH FINAL FORMÐYEH WITH HAH WITH YEH FINAL FO",
  "RMÙJEEM WITH YEH FINAL FORMÙMEEM WITH YEH FINAL FORMÐMEEM WITH MEEM WITH YEH FINAL FORMÐQAF WITH ",
  "MEEM WITH YEH FINAL FORMÐNOON WITH HAH WITH YEH FINAL FORMÐQAF WITH MEEM WITH HAH INITIAL FORMÐL",
  "AM WITH HAH WITH MEEM INITIAL FORMÐAIN WITH MEEM WITH YEH FINAL FORMÐKAF WITH MEEM WITH YEH FINA",
  "L FORMÐNOON WITH JEEM WITH HAH INITIAL FORMÐMEEM WITH KHAH WITH YEH FINAL FORMÐLAM WITH JEEM WIT",
  "H MEEM INITIAL FORMÐKAF WITH MEEM WITH MEEM FINAL FORMÐLAM WITH JEEM WITH MEEM FINAL FORMÐNOON W",
  "ITH JEEM WITH HAH FINAL FORMÐJEEM WITH HAH WITH YEH FINAL FORMÐHAH WITH JEEM WITH YEH FINAL FORM",
  "ÐMEEM WITH JEEM WITH YEH FINAL FORMÐFEH WITH MEEM WITH YEH FINAL FORMÐBEH WITH HAH WITH YEH FINA",
  "L FORMÐKAF WITH MEEM WITH MEEM INITIAL FORMÐAIN WITH JEEM WITH MEEM INITIAL FORMÐSAD WITH MEEM W",
  "ITH MEEM INITIAL FORMÑEEN WITH KHAH WITH YEH FINAL FORMÐNOON WITH JEEM WITH YEH FINAL FORM#FDCFÐ",
  "SALAAMUHU ALAYNAA#FDF0ÓLA USED AS KORANIC STOP SIGN ISOLATED FORMÐQALA USED AS KORANIC STOP SIGN ",
  "ISOLATED FORMÐALLAH ISOLATED FORMÑKBAR ISOLATED FORMÐMOHAMMAD ISOLATED FORMÐSALAM ISOLATED FORMÐ",
  "RASOUL ISOLATED FORMÐALAYHE ISOLATED FORMÐWASALLAM ISOLATED FORMÐSALLA ISOLATED FORMÕLLAHOU ALAY",
  "HE WASALLAMÐJALLAJALALOUHOUÀRIAL SIGNÀARABIC LIGATURE BISMILLAH AR-RAHMAN AR-RAHEEMÐSUBHAANAHU W",
  "A TAAALAAÐAZZA WA JALLÀVARIATION SELECTOR-1Ó2Ó3Ó4Ó5Ó6Ó7Ó8Ó9Ó10Ô1Ô2Ô3Ô4Ô5Ô6ÀPRESENTATION FORM FOR ",
  "VERTICAL COMMAßIDEOGRAPHIC COMMAëFULL STOPßCOLONßSEMICOLONßEXCLAMATION MARKßQUESTION MARKßLEFT W",
  "HITE LENTICULAR BRACKETßRIGHT WHITE LENTICULAR BRAKCETßHORIZONTAL ELLIPSIS#FE20ÀCOMBINING LIGATU",
  "RE LEFT HALFÓRIGHT HALFÊDOUBLE TILDE LEFT HALF×RIGHT HALFÊMACRON LEFT HALFÑRIGHT HALFÊCONJOINING ",
  "MACRONÊLIGATURE LEFT HALF BELOWÓRIGHT HALF BELOWÊTILDE LEFT HALF BELOWÐRIGHT HALF BELOWÊMACRON L",
  "EFT HALF BELOWÑRIGHT HALF BELOWÊCONJOINING MACRON BELOWËYRILLIC TITLO LEFT HALFÙRIGHT HALFÀPRESE",
  "NTATION FORM FOR VERTICAL TWO DOT LEADERßEM DASHàN DASHßLOW LINEßWAVY LOW LINEßLEFT PARENTHESISß",
  "RIGHT PARENTHESISßLEFT CURLY BRACKETßRIGHT CURLY BRACKETßLEFT TORTOISE SHELL BRACKETßRIGHT TORTO",
  "ISE SHELL BRACKETßLEFT BLACK LENTICULAR BRACKETßRIGHT BLACK LENTICULAR BRACKETßLEFT DOUBLE ANGLE ",
  "BRACKETßRIGHT DOUBLE ANGLE BRACKETßLEFT ANGLE BRACKETßRIGHT ANGLE BRACKETßLEFT CORNER BRACKETßRI",
  "GHT CORNER BRACKETßLEFT WHITE CORNER BRACKETßRIGHT WHITE CORNER BRACKETÀSESAME DOTÀWHITE SESAME ",
  "DOTÀPRESENTATION FORM FOR VERTICAL LEFT SQUARE BRACKETßRIGHT SQUARE BRACKETÀDASHED OVERLINEÀCENT",
  "RELINE OVERLINEÀWAVY OVERLINEÀDOUBLE WAVY OVERLINEÁASHED LOW LINEÀCENTRELINE LOW LINEÀWAVY LOW L",
  "INEÀSMALL COMMAÆIDEOGRAPHIC COMMAÆFULL STOP#FE54ÆSEMICOLONÆCOLONÆQUESTION MARKÆEXCLAMATION MARKÇ",
  "M DASHÆLEFT PARENTHESISÆRIGHT PARENTHESISÆLEFT CURLY BRACKETÆRIGHT CURLY BRACKETÆLEFT TORTOISE S",
  "HELL BRACKETÆRIGHT TORTOISE SHELL BRACKETÆNUMBER SIGNÆAMPERSANDÇSTERISKÆPLUS SIGNÆHYPHEN-MINUSÆL",
  "ESS-THAN SIGNÆGREATER-THAN SIGNÆEQUALS SIGN#FE68ÆREVERSE SOLIDUSÆDOLLAR SIGNÆPERCENT SIGNÆCOMMER",
  "CIAL AT#FE70ÀARABIC FATHATAN ISOLATED FORMÇTATWEEL WITH FATHATAN ABOVEÇDAMMATAN ISOLATED FORMÇTA",
  "IL FRAGMENTÇKASRATAN ISOLATED FORM#FE76ÇFATHA ISOLATED FORMÍMEDIAL FORMÇDAMMA ISOLATED FORMÍMEDI",
  "AL FORMÇKASRA ISOLATED FORMÍMEDIAL FORMÇSHADDA ISOLATED FORMÎMEDIAL FORMÈUKUN ISOLATED FORMÍMEDI",
  "AL FORMÇLETTER HAMZA ISOLATED FORMÎALEF WITH MADDA ABOVE ISOLATED FORMäFINAL FORMØHAMZA ABOVE IS",
  "OLATED FORMäFINAL FORMÎWAW WITH HAMZA ABOVE ISOLATED FORMãFINAL FORMÎALEF WITH HAMZA BELOW ISOLA",
  "TED FORMäFINAL FORMÎYEH WITH HAMZA ABOVE ISOLATED FORMãFINAL FORMãINITIAL FORMãMEDIAL FORMÎALEF ",
  "ISOLATED FORMÓFINAL FORMÎBEH ISOLATED FORMÒFINAL FORMÒINITIAL FORMÒMEDIAL FORMÎTEH MARBUTA ISOLA",
  "TED FORMÚFINAL FORMÒISOLATED FORMÒFINAL FORMÒINITIAL FORMÒMEDIAL FORMÏHEH ISOLATED FORMÓFINAL FO",
  "RMÓINITIAL FORMÓMEDIAL FORMÎJEEM ISOLATED FORMÓFINAL FORMÓINITIAL FORMÓMEDIAL FORMÎHAH ISOLATED ",
  "FORMÒFINAL FORMÒINITIAL FORMÒMEDIAL FORMÎKHAH ISOLATED FORMÓFINAL FORMÓINITIAL FORMÓMEDIAL FORMÎ",
  "DAL ISOLATED FORMÒFINAL FORMÎTHAL ISOLATED FORMÓFINAL FORMÎREH ISOLATED FORMÒFINAL FORMÎZAIN ISO",
  "LATED FORMÓFINAL FORMÎSEEN ISOLATED FORMÓFINAL FORMÓINITIAL FORMÓMEDIAL FORMÏHEEN ISOLATED FORMÔ",
  "FINAL FORMÔINITIAL FORMÔMEDIAL FORMÏAD ISOLATED FORMÒFINAL FORMÒINITIAL FORMÒMEDIAL FORMÎDAD ISO",
  "LATED FORMÒFINAL FORMÒINITIAL FORMÒMEDIAL FORMÎTAH ISOLATED FORMÒFINAL FORMÒINITIAL FORMÒMEDIAL ",
  "FORMÎZAH ISOLATED FORMÒFINAL FORMÒINITIAL FORMÒMEDIAL FORMÎAIN ISOLATED FORMÒFINAL FORMÒINITIAL ",
  "FORMÒMEDIAL FORMÎGHAIN ISOLATED FORMÔFINAL FORMÔINITIAL FORMÔMEDIAL FORMÎFEH ISOLATED FORMÒFINAL ",
  "FORMÒINITIAL FORMÒMEDIAL FORMÎQAF ISOLATED FORMÒFINAL FORMÒINITIAL FORMÒMEDIAL FORMÎKAF ISOLATED ",
  "FORMÒFINAL FORMÒINITIAL FORMÒMEDIAL FORMÎLAM ISOLATED FORMÒFINAL FORMÒINITIAL FORMÒMEDIAL FORMÎM",
  "EEM ISOLATED FORMÓFINAL FORMÓINITIAL FORMÓMEDIAL FORMÎNOON ISOLATED FORMÓFINAL FORMÓINITIAL FORM",
  "ÓMEDIAL FORMÎHEH ISOLATED FORMÒFINAL FORMÒINITIAL FORMÒMEDIAL FORMÎWAW ISOLATED FORMÒFINAL FORMÎ",
  "ALEF MAKSURA ISOLATED FORMÛFINAL FORMÎYEH ISOLATED FORMÒFINAL FORMÒINITIAL FORMÒMEDIAL FORMÈIGAT",
  "URE LAM WITH ALEF WITH MADDA ABOVE ISOLATED FORMïFINAL FORMãHAMZA ABOVE ISOLATED FORMïFINAL FORM",
  "éBELOW ISOLATED FORMïFINAL FORMÞISOLATED FORMÞFINAL FORM#FEFFÀZERO WIDTH NO-BREAK SPACE#FF01ÀFUL",
  "LWIDTH EXCLAMATION MARKÊQUOTATION MARKÊNUMBER SIGNÊDOLLAR SIGNÊPERCENT SIGNÊAMPERSANDËPOSTROPHEÊ",
  "LEFT PARENTHESISÊRIGHT PARENTHESISÊASTERISKÊPLUS SIGNÊCOMMAÊHYPHEN-MINUSÊFULL STOPÊSOLIDUSÊDIGIT ",
  "ZEROÐONEÐTWOÑHREEÐFOURÑIVEÐSIXÑEVENÐEIGHTÐNINEÊCOLONÊSEMICOLONÊLESS-THAN SIGNÊEQUALS SIGNÊGREATE",
  "R-THAN SIGNÊQUESTION MARKÊCOMMERCIAL ATÊLATIN CAPITAL LETTER AßBßCßDßEßFßGßHßIßJßKßLßMßNßOßPßQßR",
  "ßSßTßUßVßWßXßYßZËEFT SQUARE BRACKETÊREVERSE SOLIDUSËIGHT SQUARE BRACKETÊCIRCUMFLEX ACCENTÊLOW LI",
  "NEÊGRAVE ACCENTÊLATIN SMALL LETTER AÝBÝCÝDÝEÝFÝGÝHÝIÝJÝKÝLÝMÝNÝOÝPÝQÝRÝSÝTÝUÝVÝWÝXÝYÝZËEFT CURLY ",
  "BRACKETÊVERTICAL LINEÊRIGHT CURLY BRACKETÊTILDEÊLEFT WHITE PARENTHESISÊRIGHT WHITE PARENTHESISÀH",
  "ALFWIDTH IDEOGRAPHIC FULL STOPÊLEFT CORNER BRACKETÊRIGHT CORNER BRACKETÊIDEOGRAPHIC COMMAÊKATAKA",
  "NA MIDDLE DOTÓLETTER WOÚSMALL AàIàUàEàOàYAáUáOàTUÒ-HIRAGANA PROLONGED SOUND MARKÒ LETTER AÚIÚUÚE",
  "ÚOÚKAÛIÛUÛEÛOÚSAÛIÛUÛEÛOÚTAÛIÛUÛEÛOÚNAÛIÛUÛEÛOÚHAÛIÛUÛEÛOÚMAÛIÛUÛEÛOÚYAÛUÛOÚRAÛIÛUÛEÛOÚWAÚNÓVOIC",
  "ED SOUND MARKÓSEMI-VOICED SOUND MARKÊHANGUL FILLERÑLETTER KIYEOKØSSANGKIYEOKØKIYEOK-SIOSØNIEUNÝ-",
  "CIEUCÞHIEUHØTIKEUTØSSANGTIKEUTØRIEULÝ-KIYEOKÞMIEUMÞPIEUPÞSIOSÞTHIEUTHÞPHIEUPHÞHIEUHØMIEUMØPIEUPØ",
  "SSANGPIEUPØPIEUP-SIOSØSIOSÙSANGSIOSØIEUNGØCIEUCØSSANGCIEUCØCHIEUCHØKHIEUKHØTHIEUTHØPHIEUPHØHIEUH",
  "#FFC2ØAÙEØYAÚEØEOÙ#FFCAØYEOÚØOØWAÚEØOE#FFD2ØYOØUØWEOÚÙIØYU#FFDAØEUØYIØI#FFE0ÀFULLWIDTH CENT SIGN",
  "ÊPOUND SIGNÊNOT SIGNÊMACRONÊBROKEN BARÊYEN SIGNÊWON SIGN#FFE8ÀHALFWIDTH FORMS LIGHT VERTICALÊLEF",
  "TWARDS ARROWÊUPWARDS ARROWÊRIGHTWARDS ARROWÊDOWNWARDS ARROWÊBLACK SQUAREÊWHITE CIRCLE#FFF9ÀINTER",
  "LINEAR ANNOTATION ANCHOR×SEPARATOR×TERMINATORÀOBJECT REPLACEMENT CHARACTERÀREPLACEMENT CHARACTER",
  "#10000ÀLINEAR B SYLLABLE B008 AÔ38 EÔ28 IÔ61 OÔ10 UÔ01 DAÔ45 DEÔ07 DIÔ14 DOÔ51 DUÕ7 JAÔ46 JE#100",
  "0DÔ36 JOÔ65 JUÔ77 KAÔ44 KEÔ67 KIÔ70 KOÔ81 KUÕ0 MAÔ13 MEÔ73 MIÔ15 MOÔ23 MUÔ06 NAÔ24 NEÔ30 NIÔ52 N",
  "OÕ5 NUÔ03 PAÔ72 PEÔ39 PIÔ11 POÔ50 PUÔ16 QAÔ78 QEÔ21 QIÔ32 QO#10028Ô60 RAÔ27 REÔ53 RIÔ02 ROÔ26 RU",
  "Ô31 SAÔ09 SEÔ41 SIÔ12 SOÔ58 SUÕ9 TAÔ04 TEÔ37 TIÔ05 TOÔ69 TUÔ54 WAÔ75 WEÔ40 WIÕ2 WO#1003CÔ17 ZAÔ7",
  "4 ZE#1003FÔ20 ZOÕ5 A2Ô43 A3Ô85 AUÔ71 DWEÔ90 DWOÔ48 NWAÔ29 PU2Ô62 PTEÔ76 RA2Ô33 RA3Ô68 RO2Õ6 TA2Ô",
  "87 TWEÔ91 TWO#10050ËMBOL B018Ó9Ò22Ò34Ò47Ó9Ò56Ò63Ó4Ò79Ò82Ó3Ó6Ó9#10080ÉIDEOGRAM B100 MANÕ2 WOMANÕ4 ",
  "DEERÕ5 EQUIDÖF MAREÖM STALLIONÕ6F EWEÖM RAMÕ7F SHE-GOATÖM HE-GOATÕ8F SOWÖM BOARÕ9F COWÖM BULLÔ20 ",
  "WHEATÕ1 BARLEYÕ2 OLIVEÕ3 SPICEÕ5 CYPERUSÉMONOGRAM B127 KAPOÕ8 KANAKOÉIDEOGRAM B130 OILÕ1 WINEÕ2É",
  "MONOGRAM B133 AREPAÕ5 MERIÉIDEOGRAM B140 BRONZEÕ1 GOLDÕ2Õ5 WOOLÕ6Ô50Õ1 HORNÕ2Õ3Õ4ÉMONOGRAM B156 ",
  "TURO2ÉIDEOGRAM B157Õ8Õ9 CLOTHÔ60Õ1Õ2 GARMENTÕ3 ARMOURÕ4Õ5Õ6Õ7Õ8Õ9Ô70Õ1Õ2Õ3 MONTHÕ4Õ6 TREEÕ7Õ8Õ9Ô",
  "80Õ1Õ2Õ3Õ4Õ5Õ9Ô90Õ1 HELMETÓ220 FOOTSTOOLÕ5 BATHTUBÔ30 SPEARÕ1 ARROWÕ2Õ3 SWORDÕ4Õ6Ô40 WHEELED CHA",
  "RIOTÕ1 CHARIOTÕ2 CHARIOT FRAMEÕ3 WHEELÕ5Õ6ÉMONOGRAM B247 DIPTEÉIDEOGRAM B248Õ9Ô51Õ2Õ3Õ4 DARTÕ5Õ6",
  "Õ7Õ8Õ9ÒVESSEL B155Ú200Ü1Ü2Ü3Ü4Ü5Ü6Ü7Ü8Ü9Û10Ü1Ü2Ü3Ü4Ü5Ü6Ü7Ü8Ü9Û21Ü2Ü6Ü7Ü8Ü9Û50Ú305#10100ÀAEGEAN W",
  "ORD SEPARATOR LINEÖDOTÇCHECK MARK#10107ÇNUMBER ONEÎTWOÏHREEÎFOURÏIVEÎSIXÏEVENÎEIGHTÎNINEÎTENÏWEN",
  "TYÏHIRTYÎFORTYÏIFTYÎSIXTYÏEVENTYÎEIGHTYÎNINETYÎONE HUNDREDÎTWO HUNDREDÏHREE HUNDREDÎFOUR HUNDRED",
  "ÏIVE HUNDREDÎSIX HUNDREDÏEVEN HUNDREDÎEIGHT HUNDREDÎNINE HUNDREDÎONE THOUSANDÎTWO THOUSANDÏHREE ",
  "THOUSANDÎFOUR THOUSANDÏIVE THOUSANDÎSIX THOUSANDÏEVEN THOUSANDÎEIGHT THOUSANDÎNINE THOUSANDÎTEN ",
  "THOUSANDÏWENTY THOUSANDÏHIRTY THOUSANDÎFORTY THOUSANDÏIFTY THOUSANDÎSIXTY THOUSANDÏEVENTY THOUSA",
  "NDÎEIGHTY THOUSANDÎNINETY THOUSAND#10137ÇWEIGHT BASE UNITÎFIRST SUBUNITÎSECOND SUBUNITÎTHIRD SUB",
  "UNITÎFOURTH SUBUNITÇDRY MEASURE FIRST SUBUNITÇLIQUID MEASURE FIRST SUBUNITÇMEASURE SECOND SUBUNI",
  "TÏTHIRD SUBUNITÀGREEK ACROPHONIC ATTIC ONE QUARTERÛHALFÛDRACHMA×FIVEÙFTYÙVE HUNDREDÜTHOUSANDÙFTY ",
  "THOUSANDÙVE TALENTS×TEN TALENTS×FIFTY TALENTS×ONE HUNDRED TALENTS×FIVE HUNDRED TALENTS×ONE THOUS",
  "AND TALENTS×FIVE THOUSAND TALENTSÜSTATERS×TEN STATERS×FIFTY STATERS×ONE HUNDRED STATERS×FIVE HUN",
  "DRED STATERS×ONE THOUSAND STATERS×TEN THOUSAND STATERS×FIFTY THOUSAND STATERS×TEN MNASÑHERAEUM O",
  "NE PLETHRONÑTHESPIAN ONEÑHERMIONIAN ONEÑEPIDAUREAN TWOÑTHESPIAN TWOÑCYRENAIC TWO DRACHMASÑEPIDAU",
  "REAN TWO DRACHMASÑTROEZENIAN FIVEÜTENß ALTERNATE FORMÑHERMIONIAN TENÑMESSENIAN TENÑTHESPIAN TENÛ",
  "HIRTYÒROEZENIAN FIFTYá ALTERNATE FORMÑHERMIONIAN FIFTYÑTHESPIAN FIFTYÚONE HUNDREDÚTHREE HUNDREDÑ",
  "EPIDAUREAN FIVE HUNDREDÑTROEZENIAN FIVE HUNDREDÒHESPIAN FIVE HUNDREDÑCARYSTIAN FIVE HUNDREDÑNAXI",
  "AN FIVE HUNDREDÑTHESPIAN ONE THOUSANDÚFIVE THOUSANDÑDELPHIC FIVE MNASÑSTRATIAN FIFTY MNASÆONE HA",
  "LF SIGNÓ ALTERNATE FORMÆTWO THIRDS SIGNÇHREE QUARTERS SIGNÆYEAR SIGNÆTALENT SIGNÆDRACHMA SIGNÆOB",
  "OL SIGNÆTWO OBOLS SIGNÇHREE OBOLS SIGNÆFOUR OBOLS SIGNÇIVE OBOLS SIGNÆMETRETES SIGNÆKYATHOS BASE ",
  "SIGNÆLITRA SIGNÆOUNKIA SIGNÆXESTES SIGNÆARTABE SIGNÈOURA SIGNÆGRAMMA SIGNÆTRYBLION BASE SIGNÆZER",
  "O SIGNÆONE QUARTER SIGNÆSINUSOID SIGNÆINDICTION SIGNÀNOMISMA SIGN#10190ÀROMAN SEXTANS SIGNÆUNCIA ",
  "SIGNÆSEMUNCIA SIGNÈXTULA SIGNÆDIMIDIA SEXTULA SIGNÆSILIQUA SIGNÆDENARIUS SIGNÆQUINARIUS SIGNÆSES",
  "TERTIUS SIGNÆDUPONDIUS SIGNÆAS SIGNÆCENTURIAL SIGNÀASCIA SYMBOL#101A0ÀGREEK SYMBOL TAU RHO#101D0",
  "ÀPHAISTOS DISC SIGN PEDESTRIANÔLUMED HEADÓTATTOOED HEADÓCAPTIVEÔHILDÓWOMANÓHELMETÓGAUNTLETÓTIARA",
  "ÓARROWÓBOWÓSHIELDÓCLUBÓMANACLESÕTTOCKÓSAWÓLIDÓBOOMERANGÓCARPENTRY PLANEÓDOLIUMÓCOMBÓSLINGÓCOLUMN",
  "ÓBEEHIVEÓSHIPÓHORNÔIDEÓBULLS LEGÓCATÓRAMÓEAGLEÓDOVEÓTUNNYÓBEEÓPLANE TREEÓVINEÓPAPYRUSÓROSETTEÓLI",
  "LYÓOX BACKÓFLUTEÓGRATERÓSTRAINERÔMALL AXEÓWAVY BANDÓCOMBINING OBLIQUE STROKE#10280ÀLYCIAN LETTER ",
  "AÎEÎBÏHÎGÎDÎIÎWÎZÎTHÎJÎKÎQÎLÎMÎNÎMMÎNNÎUÎPÎKKÎRÎSÎTÏTÎANÎENÎHÎX#102A0ÀCARIAN LETTER AÎP2ÎDÎLÎUUU",
  "ÎRÎLDÎA2ÎQÎBÎMÎOÎD2ÎTÎSHÐ2ÏÎC-18ÎUÎNNÎXÎNÎTT2ÎPÎSSÎIÎEÎUUUUÎKÏ2ÎNDÎUUÎGÏ2ÎSTÐ2ÎNGÎIIÎC-39ÎTTÎUUU",
  "2ÎRRÎMBÐ2Ð3Ð4ÎLD2ÎE2ÎUUU3#102E0ÁOPTIC EPACT THOUSANDS MARKÍDIGIT ONEÓTWOÔHREEÓFOURÔIVEÓSIXÔEVENÓ",
  "EIGHTÓNINEÍNUMBER TENÕWENTYÕHIRTYÔFORTYÕIFTYÔSIXTYÕEVENTYÔEIGHTYÔNINETYÔONE HUNDREDÔTWO HUNDREDÕ",
  "HREE HUNDREDÔFOUR HUNDREDÕIVE HUNDREDÔSIX HUNDREDÕEVEN HUNDREDÔEIGHT HUNDREDÔNINE HUNDRED#10300À",
  "OLD ITALIC LETTER AÒBEÒKEÒDEÒEÒVEÒZEÒHEÒTHEÒIÒKAÒELÓMÓNÓSHÒOÒPEÒSHEÒKUÒERÓSÒTEÒUÒEKSÒPHEÒKHEÒEFÓ",
  "RSÒCHEÒIIÒUUÒESSËNUMERAL ONEÓFIVEÓTENÓFIFTY#1032DËLETTER YEÒNORTHERN TSEÒSOUTHERN TSEÀGOTHIC LET",
  "TER AHSAÎBAIRKANÎGIBAÎDAGSÎAIHVUSÎQAIRTHRAÎIUJAÎHAGLÎTHIUTHÎEISÎKUSMAÎLAGUSÎMANNAÎNAUTHSÎJERÎURU",
  "SÎPAIRTHRAÎNINETYÎRAIDAÎSAUILÎTEIWSÎWINJAÎFAIHUÎIGGWSÎHWAIRÎOTHALÎNINE HUNDRED#10350ÀOLD PERMIC ",
  "LETTER ANÒBURÒGAIÒDOIÒEÒZHOIÒDZHOIÒZATAÒDZITAÒIÒKOKEÒLEIÒMENOEÒNENOEÒVOOIÒPEEIÒREIÒSIIÒTAIÒUÒCHE",
  "RYÒSHOOIÔCHOOIÒYRYÓERUÒOÓOÒEFÒHAÒTSIUÒVERÒYERÕIÓATÒIEÒYUÓAÒIAÀCOMBINING OLD PERMIC LETTER ANÜDOI",
  "ÜZATAÜNENOEÜSII#10380ÀUGARITIC LETTER ALPAÐBETAÐGAMLAÐKHAÐDELTAÐHOÐWOÐZETAÐHOTAÐTETÐYODÐKAFÐSHIN",
  "ÐLAMDAÐMEMÐDHALÐNUNÐZUÐSAMKAÐAINÐPUÐSADEÐQOPAÐRASHAÐTHANNAÐGHAINÐTOÐIÐUÐSSU#1039FÉWORD DIVIDERÀO",
  "LD PERSIAN SIGN AÑIÑUÑKAÒUÑGAÒUÑXAÑCAÑJAÒIÑTAÒUÑDAÒIÒUÑTHAÑPAÑBAÑFAÑNAÒUÑMAÒIÒUÑYAÑVAÒIÑRAÒUÑLAÑ",
  "SAÑZAÑSHAÒSAÑHA#103C8ÑAURAMAZDAAÛ-2ÛHAÑXSHAAYATHIYAÑDAHYAAUSHÚ-2ÑBAGAÒUUMISHÌWORD DIVIDERÌNUMBER ",
  "ONEÓTWOÔENÔWENTYÓHUNDRED#10400ÀDESERET CAPITAL LETTER LONG IÜEÜAÝHÜOÝO×SHORT IÝEÝAÞHÝOÞO×AY×OW×W",
  "U×YEE×H×PEE×BEE×TEE×DEE×CHEE×JEE×KAY×GAY×EF×VEE×ETH×THEE×ES×ZEE×ESH×ZHEE×ERØLØMØNÙG×OI×EWÈSMALL ",
  "LETTER LONG IÚEÚAÛHÚOÛOÕSHORT IÛEÛAÜHÛOÜOÕAYÕOWÕWUÕYEEÕHÕPEEÕBEEÕTEEÕDEEÕCHEEÕJEEÕKAYÕGAYÕEFÕVEE",
  "ÕETHÕTHEEÕESÕZEEÕESHÕZHEEÕERÖLÖMÖN×GÕOIÕEWÀSHAVIAN LETTER PEEPÏTOTÏKICKÏFEEÏTHIGHÏSOÐUREÏCHURCHÏ",
  "YEAÏHUNGÏBIBÏDEADÏGAGÏVOWÏTHEYÏZOOÏMEASUREÏJUDGEÏWOEÏHA-HAÏLOLLÏMIMEÏIFÏEGGÏASHÐDOÏONÏWOOLÏOUTÏA",
  "HÏROARÏNUNÏEATÏAGEÏICEÏUPÏOAKÐOZEÐILÏAWEÐREÏORÏAIRÏERRÏARRAYÏEARÏIANÏYEWÀOSMANYA LETTER ALEFÏBAÏ",
  "TAÏJAÏXAÏKHAÏDEELÏRAÏSAÐHIINÏDHAÏCAYNÏGAÏFAÏQAAFÏKAAFÏLAANÏMIINÏNUUNÏWAWÏHAÏYAÏAÏEÏIÏOÏUÏAAÏEEÏO",
  "O#104A0ÈDIGIT ZEROÎONEÎTWOÏHREEÎFOURÏIVEÎSIXÏEVENÎEIGHTÎNINE#104B0ÂAGE CAPITAL LETTER AÖI×NÖHÕBR",
  "AÕCHAÕEHCHAÖÖINÕHAÖYAÕIÕKAÕEHKAÕKYAÕLAÕMAÕNAÕOÖINÕPAÕEHPAÕSAÖHAÕTAÕEHTAÕTSAÕEHTSAÕTSHAÕDHAÕUÕWAÕ",
  "KHAÕGHAÕZAÖHA#104D8ÆSMALL LETTER AÔIÕNÔHÓBRAÓCHAÓEHCHAÔÔINÓHAÔYAÓIÓKAÓEHKAÓKYAÓLAÓMAÓNAÓOÔINÓPAÓ",
  "EHPAÓSAÔHAÓTAÓEHTAÓTSAÓEHTSAÓTSHAÓDHAÓUÓWAÓKHAÓGHAÓZAÔHA#10500ÀELBASAN LETTER AÏBEÏCEÐHEÏDEÏNDEÏ",
  "DHEÏEIÐÏFEÏGEÐJEÏHEÏIÏJEÏKEÏLEÐLEÏMEÏNEÐAÐJEÏOÏPEÏQEÏREÐREÏSEÐHEÏTEÐHEÏUÏVEÏXEÏYÏZEÐHEÏGHEÑAMMAÏ",
  "KHE#10530ÀCAUCASIAN ALBANIAN LETTER ALTÚBETÚGIMÚDATÚEBÚZARLÚEYNÚZHILÚTASÚCHAÚYOWDÚZHAÚIRBÚSHAÚLA",
  "NÚINYAÚXEYNÚDYANÚCARÚJHOXÚKARÚLYITÚHEYTÚQAYÚAORÚCHOYÜIÛYAYÚMAQÚQARÚNOWCÚDZYAYÚSHAKÚJAYNÚONÚTYAYÚ",
  "FAMÚDZAYÚCHATÚPENÚGHEYSÚRATÚSEYKÚVEYZÚTIWRÚSHOYÚIWNÚCYAWÛAYNÚYAYDÚPIWRÚKIW#1056FÓCITATION MARKÀV",
  "ITHKUQI CAPITAL LETTER AØBBEÙEØCEÙHEØDEÙHEØEIÙØFEØGA#1057CØHAÙHAØIÙJEØJEØKAØLAÙLAØMEØNEÙJEØOØPEØ",
  "QAØRE#1058CØSEÙHEØTEÙHEØUØVEØXE#10594ØYØZE#10597ÉSMALL LETTER AÖBBE×EÖCE×HEÖDE×HEÖEI×ÖFEÖGA#105A",
  "3ÖHA×HAÖI×JEÖJEÖKAÖLA×LAÖMEÖNE×JEÖOÖPEÖQAÖRE#105B3ÖSE×HEÖTE×HEÖUÖVEÖXE#105BBÖYÖZE#10600ÀLINEAR A ",
  "SIGN AB001Ò2Ò3Ò4Ò5Ò6Ò7Ò8Ò9Ñ10Ò1Ò3Ò6Ò7Ñ20Ò1ÓFÓMÒ2ÓFÓMÒ3ÓMÒ4Ò6Ò7Ò8Ï028BÏB029Ñ30Ò1Ò4Ò7Ò8Ò9Ñ40Ò1Ò4Ò5",
  "Ò6Ò7Ò8Ò9Ñ50Ò1Ò3Ò4Ò5Ò6Ò7Ò8Ò9Ñ60Ò1Ò5Ò6Ò7Ò9Ñ70Ò3Ò4Ò6Ò7Ò8Ò9Ñ80Ò1Ò2Ò5Ò6Ò7Ï100-102ÏB118Ñ20Ï120BÏB122Ò3",
  "Ñ31AÓBÏ131CÏB164Ñ71Ñ80Ò8Ñ91Ï301Ñ2Ñ3Ñ4Ñ5Ñ6Ñ7Ñ8Ñ9AÒBÒCÐ10Ñ1Ñ2Ñ3AÒBÒCÑ4Ñ5Ñ6Ñ7Ñ8Ñ9Ð20Ñ1Ñ2Ñ3Ñ4Ñ5Ñ6Ñ7Ñ",
  "8Ñ9Ð30Ñ1Ñ2Ñ3Ñ4Ñ5Ñ6Ñ7Ñ8Ñ9Ð40Ñ1Ñ2Ñ3Ñ4Ñ5Ñ6Ñ7Ñ8Ñ9Ð50Ñ1Ñ2Ñ3Ñ4Ñ5Ñ6Ñ7Ñ8Ñ9Ð60Ñ1Ñ2Ñ3Ñ4Ñ5Ñ6Ñ7Ñ8Ñ9Ð70Ñ1Ï400",
  "-VASÑ1-VASÑ2-VASÑ3-VASÑ4-VASÑ5-VASÑ6-VASÑ7-VASÑ8-VASÑ9-VASÐ10-VASÑ1-VASÑ2-VASÑ3-VASÑ4-VASÑ5-VASÑ",
  "6-VASÑ7-VASÑ8-VASÏ501Ñ2Ñ3Ñ4Ñ5Ñ6Ñ8Ñ9Ð10Ñ1Ñ2Ñ3Ñ5Ñ6Ð20Ñ1Ñ3Ñ4Ñ5Ñ6Ñ7Ñ8Ñ9Ð30Ñ1Ñ2Ñ4Ñ5Ñ6Ñ7Ñ8Ñ9Ð40Ñ1Ñ2Ñ5Ñ",
  "7Ñ8Ñ9Ð50Ñ1Ñ2Ñ3Ñ4Ñ5Ñ6Ñ7Ñ9Ð63Ñ4Ñ5Ñ6Ñ8Ñ9Ð70Ñ1Ñ2Ñ3Ñ4Ñ5Ñ6Ñ7Ñ8Ñ9Ð80Ñ1Ñ2Ñ3Ñ4Ñ5Ñ6Ñ7Ñ8Ñ9Ð91Ñ2Ñ4Ñ5Ñ6Ñ8Ï600",
  "Ñ1Ñ2Ñ3Ñ4Ñ6Ñ8Ñ9Ð10Ñ1Ñ2Ñ3Ñ4Ñ5Ñ6Ñ7Ñ8Ñ9Ð20Ñ1Ñ2Ñ3Ñ4Ñ6Ñ7Ñ8Ñ9Ð34Ñ7Ñ8Ð40Ñ2Ñ3Ñ4Ñ5Ñ6Ñ8Ñ9Ð51Ñ2Ñ3Ñ4Ñ5Ñ6Ñ7Ñ8Ñ",
  "9Ð60Ñ1Ñ2Ñ3Ñ4#10740Ï701 AÑ2 BÑ3 DÑ4 EÑ5 FÑ6 HÑ7 JÑ8 KÑ9 LÒ-2 L2Ó3 L3Ó4 L4Ó6 L6Ð10 WÑ1 XÑ2 YÑ3 OME",
  "GAÑ4 ABBÑ5 BBÑ7 DDÐ26 EYYYÐ32 JE#10760Ï800Ñ1Ñ2Ñ3Ñ4Ñ5Ñ6Ñ7#10780ÀMODIFIER LETTER SMALL CAPITAL AAÑ",
  "UPERSCRIPT TRIANGULAR COLONÜHALF TRIANGULAR COLONÑMALL AEÖCAPITAL BÖB WITH HOOK#10787ÖDZ DIGRAPH",
  "à WITH RETROFLEX HOOKæCURL×EZH DIGRAPH× WITH TAILÝHOOKá AND TAILÖREVERSED EÖCLOSED REVERSED OPEN ",
  "EÖFENG DIGRAPHÖRAMS HORNÖCAPITAL GÖG WITH HOOKÖCAPITAL G WITH HOOKÖH WITH STROKEÖCAPITAL HÖHENG ",
  "WITH HOOKÖDOTLESS J WITH STROKE AND HOOKÖLS DIGRAPH×Z DIGRAPH× WITH BELTÖCAPITAL L WITH BELTÖL W",
  "ITH RETROFLEX HOOK AND BELT×EZHÚ WITH RETROFLEX HOOKÖTURNED YÞ WITH BELTÖO WITH STROKEÖCAPITAL O",
  "E×LOSED OMEGAÖQÖTURNED R WITH LONG LEGì AND RETROFLEX HOOKÖR WITH TAILÝFISHHOOKÖCAPITAL RÖTC DIG",
  "RAPH WITH CURL×S DIGRAPHà WITH RETROFLEX HOOK×ESH DIGRAPH× WITH RETROFLEX HOOKÖV WITH RIGHT HOOK",
  "#107B2ÖCAPITAL YÐGLOTTAL STOP WITH STROKEÐREVERSED GLOTTAL STOP WITH STROKEÐBILABIAL CLICKÐDENTA",
  "L CLICKÐLATERAL CLICKÐALVEOLAR CLICKÐRETROFLEX CLICK WITH RETROFLEX HOOKÐSMALL S WITH CURL#10800",
  "ÀCYPRIOT SYLLABLE AÑEÑIÑOÑUÑJA#10808ÒO#1080AÑKAÒEÒIÒOÒUÑLAÒEÒIÒOÒUÑMAÒEÒIÒOÒUÑNAÒEÒIÒOÒUÑPAÒEÒIÒ",
  "OÒUÑRAÒEÒIÒOÒUÑSAÒEÒIÒOÒUÑTAÒEÒIÒOÒUÑWAÒEÒIÒO#10837ÑXAÒE#1083CÑZA#1083FÒOÀIMPERIAL ARAMAIC LETTE",
  "R ALEPHØBETHØGIMELØDALETHØHEØWAWØZAYINØHETHØTETHØYODHØKAPHØLAMEDHØMEMØNUNØSAMEKHØAYINØPEØSADHEØQ",
  "OPHØRESHØSHINØTAW#10857ÑSECTION SIGNÑNUMBER ONEØTWOÙHREEÙENÙWENTYØONE HUNDREDÜTHOUSANDØTEN THOUS",
  "ANDÀPALMYRENE LETTER ALEPHÑBETHÑGIMELÑDALETHÑHEÑWAWÑZAYINÑHETHÑTETHÑYODHÑKAPHÑLAMEDHÑMEMÑFINAL N",
  "UNÑNUNÑSAMEKHÑAYINÑPEÑSADHEÑQOPHÑRESHÑSHINÑTAWÌFT-POINTING FLEURONÊRIGHT-POINTING FLEURONÊNUMBER ",
  "ONEÑTWOÒHREEÑFOURÒIVEÑTENÒWENTYÀNABATAEAN LETTER FINAL ALEPHÑALEPHÑFINAL BETHÑBETHÑGIMELÑDALETHÑ",
  "FINAL HEÑHEÑWAWÑZAYINÑHETHÑTETHÑFINAL YODHÑYODHÑFINAL KAPHÑKAPHÑFINAL LAMEDHÑLAMEDHÑFINAL MEMÑME",
  "MÑFINAL NUNÑNUNÑSAMEKHÑAYINÑPEÑSADHEÑQOPHÑRESHÑFINAL SHINÑSHINÑTAW#108A7ÊNUMBER ONEÑTWOÒHREEÑFOU",
  "RÊCRUCIFORM NUMBER FOURÊNUMBER FIVEÑTENÒWENTYÑONE HUNDRED#108E0ÀHATRAN LETTER ALEPHÎBETHÎGIMELÎD",
  "ALETH-RESHÎHEÎWAWÎZAYNÎHETHÎTETHÎYODHÎKAPHÎLAMEDHÎMEMÎNUNÎSAMEKHÎAYNÎPEÎSADHEÎQOPH#108F4ÎSHINÎTA",
  "W#108FBÇNUMBER ONEÎFIVEÎTENÏWENTYÎONE HUNDREDÀPHOENICIAN LETTER ALFÒBETÒGAMLÒDELTÒHEÒWAUÒZAIÒHET",
  "ÒTETÒYODÒKAFÒLAMDÒMEMÒNUNÒSEMKÒAINÒPEÒSADEÒQOFÒROSHÒSHINÒTAUËNUMBER ONEÒTENÓWENTYÒONE HUNDREDÒTW",
  "OÓHREE#1091FËWORD SEPARATORÀLYDIAN LETTER AÎBÎGÎDÎEÎVÎIÎYÎKÎLÎMÎNÎOÎRÎSSÎTÎUÎFÎQÎSÎTTÎANÎENÎLYÎN",
  "NÎC#1093FÇTRIANGULAR MARK#10980ÀMEROITIC HIEROGLYPHIC LETTER AÝEÝIÝOÝYAÝWAÝBAß-2ÝPAÝMAÝNAß-2ÞEß-",
  "2ÝRAß-2ÝLAÝKHAÝHHAÝSAß-2ÞEÝKAÝQAÝTAß-2ÞEß-2ÞOÝDAÖSYMBOL VIDJá-2ÉCURSIVE LETTER AØEØIØOØYAØWAØBAØ",
  "PAØMAØNAÙEØRAØLAØKHAØHHAØSAØARCHAIC SAØSEØKAØQAØTAÙEÙOØDA#109BCÑFRACTION ELEVEN TWELFTHSÚONE HAL",
  "FÑLOGOGRAM RMTÚIMNÑNUMBER ONEØTWOÙHREEØFOURÙIVEØSIXÙEVENØEIGHTØNINEØTENÙWENTYÙHIRTYØFORTYÙIFTYØS",
  "IXTYÙEVENTY#109D2ØONE HUNDREDØTWO HUNDREDÙHREE HUNDREDØFOUR HUNDREDÙIVE HUNDREDØSIX HUNDREDÙEVEN ",
  "HUNDREDØEIGHT HUNDREDØNINE HUNDREDØONE THOUSANDØTWO THOUSANDÙHREE THOUSANDØFOUR THOUSANDÙIVE THO",
  "USANDØSIX THOUSANDÙEVEN THOUSANDØEIGHT THOUSANDØNINE THOUSANDØTEN THOUSANDÙWENTY THOUSANDÙHIRTY ",
  "THOUSANDØFORTY THOUSANDÙIFTY THOUSANDØSIXTY THOUSANDÙEVENTY THOUSANDØEIGHTY THOUSANDØNINETY THOU",
  "SANDØONE HUNDRED THOUSANDØTWO HUNDRED THOUSANDÙHREE HUNDRED THOUSANDØFOUR HUNDRED THOUSANDÙIVE H",
  "UNDRED THOUSANDØSIX HUNDRED THOUSANDÙEVEN HUNDRED THOUSANDØEIGHT HUNDRED THOUSANDØNINE HUNDRED T",
  "HOUSANDÑFRACTION ONE TWELFTHÚTWO TWELFTHSÛHREE TWELFTHSÚFOUR TWELFTHSÛIVE TWELFTHSÚSIX TWELFTHSÛ",
  "EVEN TWELFTHSÚEIGHT TWELFTHSÚNINE TWELFTHSÚTEN TWELFTHSÀKHAROSHTHI LETTER AËVOWEL SIGN IÖUÖVOCAL",
  "IC R#10A05ÖEÖO#10A0CÑLENGTH MARKËSIGN DOUBLE RING BELOWÐANUSVARAÐVISARGAËLETTER KAÓHAÒGAÓHA#10A1",
  "5ÒCAÓHAÒJA#10A19ÒNYAÒTTAÔHAÒDDAÔHAÒNNAÒTAÓHAÒDAÓHAÒNAÒPAÓHAÒBAÓHAÒMAÒYAÒRAÒLAÒVAÒSHAÓSAÓAÒZAÒHAÒ",
  "KKAÒTTTHAÕAÒVHA#10A38ËSIGN BAR ABOVEÐCAUDAÐDOT BELOW#10A3FËVIRAMAËDIGIT ONEÑTWOÒHREEÑFOURËNUMBER ",
  "TENÓWENTYÒONE HUNDREDÖTHOUSANDËFRACTION ONE HALF#10A50ËPUNCTUATION DOT×SMALL CIRCLE×CIRCLEØRESCE",
  "NT BAR×MANGALAM×LOTUS×DANDAØOUBLE DANDA×LINES#10A60ÀOLD SOUTH ARABIAN LETTER HEÙLAMEDHÙHETHÙMEMÙ",
  "QOPHÙWAWÙSHINÙRESHÙBETHÙTAWÙSATÙKAPHÙNUNÙKHETHÙSADHEÛMEKHÙFEÙALEFÚYNÙDHADHEÙGIMELÙDALETHÙGHAYNÙT",
  "ETHÙZAYNÙDHALETHÙYODHÙTHAWÛETHÒNUMBER ONEÙFIFTYÕERIC INDICATORÄNORTH ARABIAN LETTER HEHÙLAMÙHAHÙ",
  "MEEMÙQAFÙWAWÙES-2ÙREHÙBEHÙTEHÙES-1ÙKAFÙNOONÙKHAHÙSADÙES-3ÙFEHÙALEFÚINÙDADÙGEEMÙDALÙGHAINÙTAHÙZAI",
  "NÙTHALÙYEHÙTHEHÙZAHÒNUMBER ONEÙTENÚWENTY#10AC0ÀMANICHAEAN LETTER ALEPHÒBETHÓHETHÒGIMELÓHIMELÒDAL",
  "ETHÒHEÒWAWËSIGN UDËLETTER ZAYINÓHAYINÒJAYINÓHAYINÒHETHÒTETHÒYODHÒKAPHÒXAPHÒKHAPHÒLAMEDHÒDHAMEDHÒ",
  "THAMEDHÒMEMÒNUNÒSAMEKHÒAYINÓAYINÒPEÒFEÒSADHEÒQOPHÒXOPHÒQHOPHÒRESHÒSHINÓSHINÒTAWËABBREVIATION MAR",
  "K ABOVEÝBELOW#10AEBËNUMBER ONEÒFIVEÒTENÓWENTYÒONE HUNDREDËPUNCTUATION STAR×FLEURON×DOUBLE DOT WI",
  "THIN DOTÙT WITHIN DOTÚ×TWO DOTS×LINE FILLER#10B00ÀAVESTAN LETTER AÐAÐOÐAOÐNÐANÐEÑEÏEÐEÏOÐOÏIÐIÏU",
  "ÐUÏKEÏXEÐYEÐVEÏGEÐGEÐHEÏCEÏJEÏTEÐHEÏDEÐHEÏTTEÏPEÏFEÏBEÐHEÏNGEÑYEÑVEÐEÐYEÐNEÏMEÏHMEÏYYEÐEÏVEÏREÏL",
  "EÏSEÏZEÏSHEÏZHEÏSHYEÐSHEÏHE#10B39ÈABBREVIATION MARKÀTINY TWO DOTS OVER ONE DOT PUNCTUATIONÀSMALL ",
  "TWO DOTS OVER ONE DOT PUNCTUATIONÀLARGE TWO DOTS OVER ONE DOT PUNCTUATIONÆONE DOT OVER TWO DOTS ",
  "PUNCTUATIONÆTWO RINGS OVER ONE RING PUNCTUATIONÆONE RING OVER TWO RINGS PUNCTUATIONÀINSCRIPTIONA",
  "L PARTHIAN LETTER ALEPHÞBETHÞGIMELÞDALETHÞHEÞWAWÞZAYINÞHETHÞTETHÞYODHÞKAPHÞLAMEDHÞMEMÞNUNÞSAMEKH",
  "ÞAYINÞPEÞSADHEÞQOPHÞRESHÞSHINÞTAW#10B58×NUMBER ONEÞTWOßHREEÞFOURÞTENßWENTYÞONE HUNDREDâTHOUSANDÐ",
  "HLAVI LETTER ALEPHÝBETHÝGIMELÝDALETHÝHEÝWAW-AYIN-RESHÝZAYINÝHETHÝTETHÝYODHÝKAPHÝLAMEDHÝMEM-QOPHÝ",
  "NUNÝSAMEKHÝPEÝSADHEÞHINÝTAW#10B78ÖNUMBER ONEÝTWOÞHREEÝFOURÝTENÞWENTYÝONE HUNDREDáTHOUSANDÀPSALTE",
  "R PAHLAVI LETTER ALEPH×BETH×GIMEL×DALETH×HE×WAW-AYIN-RESH×ZAYIN×HETH×YODH×KAPH×LAMEDH×MEM-QOPH×N",
  "UN×SAMEKH×PE×SADHEØHIN×TAW#10B99ÐSECTION MARKÐTURNED SECTION MARKÐFOUR DOTS WITH CROSSßDOT#10BA9",
  "ÐNUMBER ONE×TWOØHREE×FOUR×TENØWENTY×ONE HUNDRED#10C00ÀOLD TURKIC LETTER ORKHON AÒYENISEI AÛEÒORK",
  "HON IÒYENISEI IÚEÒORKHON OÚEÒYENISEI OEÒORKHON ABÒYENISEI ABÒORKHON AEBÒYENISEI AEBÒORKHON AGÒYE",
  "NISEI AGÒORKHON AEGÒYENISEI AEGÒORKHON ADÒYENISEI ADÒORKHON AEDÙEZÒYENISEI EZÒORKHON AYÒYENISEI ",
  "AYÒORKHON AEYÒYENISEI AEYÒORKHON AEKÒYENISEI AEKÒORKHON OEKÒYENISEI OEKÒORKHON ALÒYENISEI ALÒORK",
  "HON AELÙELTÚMÙANÚENÒYENISEI AENÒORKHON ENTÒYENISEI ENTÒORKHON ENCÒYENISEI ENCÒORKHON ENYÒYENISEI ",
  "ENYÚANGÒORKHON ENGÒYENISEI AENGÒORKHON EPÙOPÙICÙECÒYENISEI ECÒORKHON AQÒYENISEI AQÒORKHON IQÒYEN",
  "ISEI IQÒORKHON OQÒYENISEI OQÒORKHON ARÒYENISEI ARÒORKHON AERÚSÚESÚSHÒYENISEI ASHÒORKHON ESHÒYENI",
  "SEI ESHÒORKHON ATÒYENISEI ATÒORKHON AETÒYENISEI AETÒORKHON OTÙBASH#10C80ÄHUNGARIAN CAPITAL LETTE",
  "R AÞAÝEBÝAMBÝECÞNCÞCSÞDÝANDÝEÝCLOSE EÝEEÞFÞGßYÞHÝIÞIÝEJÞKÝAKÝUNKÝELßYÞMÞNßYÝOÞOÝNIKOLSBURG OEÝRU",
  "DIMENTA OEÝOEEÝEPÞMPÞRÝSHORT ERÝESßZÞTÞNTÞTYÞCHÝUÞUÝNIKOLSBURG UEÝRUDIMENTA UEÝEVÞZßSÞNT-SHAPED ",
  "SIGNÝUS#10CC0ÎSMALL LETTER AÜAÛEBÛAMBÛECÜNCÜCSÜDÛANDÛEÛCLOSE EÛEEÜFÜGÝYÜHÛIÜIÛEJÜKÛAKÛUNKÛELÝYÜM",
  "ÜNÝYÛOÜOÛNIKOLSBURG OEÛRUDIMENTA OEÛOEEÛEPÜMPÜRÛSHORT ERÛESÝZÜTÜNTÜTYÜCHÛUÜUÛNIKOLSBURG UEÛRUDIM",
  "ENTA UEÛEVÜZÝSÜNT-SHAPED SIGNÛUS#10CFAÎNUMBER ONEÕFIVEÕTENÕFIFTYÕONE HUNDREDÙTHOUSANDÀHANIFI ROH",
  "INGYA LETTER A×BA×PA×TAØTA×JA×CA×HA×KHA×FA×DAØDA×RAØRA×ZA×SAØHA×KA×GA×LA×MA×NA×WA×KINNA WA×YA×KI",
  "NNA YA×NGAØYA×VAÐVOWEL AÖIÖUÖEÖOÐMARK SAKINÕNA KHONNAÐSIGN HARBAHAYÕTAHALA×NA×SSI#10D30ÐDIGIT ZE",
  "ROÖONEÖTWO×HREEÖFOUR×IVEÖSIX×EVENÖEIGHTÖNINE#10E60ÀRUMI DIGIT ONEËTWOÌHREEËFOURÌIVEËSIXÌEVENËEIG",
  "HTËNINEÅNUMBER TENÍWENTYÍHIRTYÌFORTYÍIFTYÌSIXTYÍEVENTYÌEIGHTYÌNINETYÌONE HUNDREDÌTWO HUNDREDÍHRE",
  "E HUNDREDÌFOUR HUNDREDÍIVE HUNDREDÌSIX HUNDREDÍEVEN HUNDREDÌEIGHT HUNDREDÌNINE HUNDREDÅFRACTION ",
  "ONE HALFÒQUARTERÒTHIRDÎTWO THIRDS#10E80ÀYEZIDI LETTER ELIFÎBEÎPEÏHEÎTHEÎSEÎCIMÏHIMÐHIMÎHHAÎXAÎDA",
  "LÎZALÎRAÏHAÎZAÎJAÎSINÏHINÏADÎDADÎTAÎZEÎEYNÎXHEYNÎFAÎVAÐ ALTERNATE FORMÎQAFÎKAFÏHAFÎGAFÎLAMÎMIMÎN",
  "UNÎUMÎWAWÎOWÎEWÎHAYÎYOTÎET#10EABÇCOMBINING HAMZA MARKÑMADDA MARKÇHYPHENATION MARK#10EB0ÇLETTER L",
  "AM WITH DOT ABOVEÎYOT WITH CIRCUMFLEX ABOVE#10F00ÀOLD SOGDIAN LETTER ALEPHÓFINAL ALEPHÓBETHÓFINA",
  "L BETHÓGIMELÓHEÓFINAL HEÓWAWÓZAYINÓHETHÓYODHÓKAPHÓLAMEDHÓMEMÓNUNÓFINAL NUNÜ WITH VERTICAL TAILÓS",
  "AMEKHÓAYINÔLTERNATE AYINÓPEÓSADHEÓFINAL SADHEÞ WITH VERTICAL TAILÓRESH-AYIN-DALETHÓSHINÓTAWÓFINA",
  "L TAWÜ WITH VERTICAL TAILÌNUMBER ONEÓTWOÔHREEÓFOURÔIVEÓTENÔWENTYÔHIRTYÓONE HUNDREDÌFRACTION ONE ",
  "HALFÌLIGATURE AYIN-DALETH#10F30ÀSOGDIAN LETTER ALEPHÏBETHÏGIMELÏHEÏWAWÏZAYINÏHETHÏYODHÏKAPHÏLAME",
  "DHÏMEMÏNUNÏSAMEKHÏAYINÏPEÏSADHEÏRESH-AYINÏSHINÏTAWÏFETHÏLESHÈINDEPENDENT SHINÈCOMBINING DOT BELO",
  "WÒTWO DOTS BELOWÒDOT ABOVEÒTWO DOTS ABOVEÒCURVE ABOVEØBELOWÒHOOK ABOVE×BELOWÒLONG HOOK BELOWÒRES",
  "H BELOWÒSTROKE BELOWÈNUMBER ONEÏTENÐWENTYÏONE HUNDREDÈPUNCTUATION TWO VERTICAL BARSå WITH DOTSÔC",
  "IRCLE WITH DOTÔTWO CIRCLES WITH DOTSÔHALF CIRCLE WITH DOT#10F70ÀOLD UYGHUR LETTER ALEPHÒBETHÒGIM",
  "EL-HETHÒWAWÒZAYINÒFINAL HETHÒYODHÒKAPHÒLAMEDHÒMEMÒNUNÒSAMEKHÒPEÒSADHEÒRESHÒSHINÒTAWÒLESHËCOMBINI",
  "NG DOT ABOVEÙBELOWÕTWO DOTS ABOVEÞBELOWËPUNCTUATION BAR×TWO BARSÛDOTS×FOUR DOTS#10FB0ÀCHORASMIAN ",
  "LETTER ALEPHÒSMALL ALEPHÒBETHÒGIMELÒDALETHÒHEÒWAWÒCURLED WAWÒZAYINÒHETHÒYODHÒKAPHÒLAMEDHÒMEMÒNUN",
  "ÒSAMEKHÒAYINÒPEÒRESHÒSHINÒTAWËNUMBER ONEÒTWOÓHREEÒFOURÒTENÓWENTYÒONE HUNDRED#10FE0ÀELYMAIC LETTE",
  "R ALEPHÏBETHÏGIMELÏDALETHÏHEÏWAWÏZAYINÏHETHÏTETHÏYODHÏKAPHÏLAMEDHÏMEMÏNUNÏSAMEKHÏAYINÏPEÏSADHEÏQ",
  "OPHÏRESHÏSHINÏTAWÉIGATURE ZAYIN-YODH#11000ÀBRAHMI SIGN CANDRABINDUÌANUSVARAÌVISARGAÌJIHVAMULIYAÌ",
  "UPADHMANIYAÇLETTER AÏAÎIÏIÎUÏUÎVOCALIC R×RÖL×LÎEÎAIÎOÎAUÎKAÏHAÎGAÏHAÎNGAÎCAÏHAÎJAÏHAÎNYAÎTTAÐHAÎ",
  "DDAÐHAÎNNAÎTAÏHAÎDAÏHAÎNAÎPAÏHAÎBAÏHAÎMAÎYAÎRAÎLAÎVAÎSHAÏSAÏAÎHAÎLLAÎOLD TAMIL LLLAØRRAØNNNAÇVOW",
  "EL SIGN AAÒBHATTIPROLU AAÒIÓIÒUÓUÒVOCALIC RÛRÚLÛLÒEÒAIÒOÒAUÈIRAMAÇDANDAÈOUBLE DANDAÇPUNCTUATION ",
  "DOTÕUBLE DOTÓLINEÓCRESCENT BARÓLOTUS#11052ÇNUMBER ONEÎTWOÏHREEÎFOURÏIVEÎSIXÏEVENÎEIGHTÎNINEÎTENÏ",
  "WENTYÏHIRTYÎFORTYÏIFTYÎSIXTYÏEVENTYÎEIGHTYÎNINETYÎONE HUNDREDÒTHOUSANDÇDIGIT ZEROÍONEÍTWOÎHREEÍF",
  "OURÎIVEÍSIXÎEVENÍEIGHTÍNINEÇSIGN OLD TAMIL VIRAMAÇLETTER OLD TAMIL SHORT EÞOÇVOWEL SIGN OLD TAMI",
  "L SHORT EâOÇLETTER OLD TAMIL LLA#1107FÇNUMBER JOINERÀKAITHI SIGN CANDRABINDUÌANUSVARAÌVISARGAÇLE",
  "TTER AÏAÎIÏIÎUÏUÎEÎAIÎOÎAUÎKAÏHAÎGAÏHAÎNGAÎCAÏHAÎJAÏHAÎNYAÎTTAÐHAÎDDAÐDHAÐHAÎRHAÎNNAÎTAÏHAÎDAÏHA",
  "ÎNAÎPAÏHAÎBAÏHAÎMAÎYAÎRAÎLAÎVAÎSHAÏSAÏAÎHAÇVOWEL SIGN AAÒIÓIÒUÓUÒEÒAIÒOÒAUÇSIGN VIRAMAÌNUKTAÇABB",
  "REVIATION SIGNÇENUMERATION SIGNÇNUMBER SIGNÇSECTION MARKÇDOUBLE SECTION MARKÈANDAÈOUBLE DANDAÇVO",
  "WEL SIGN VOCALIC R#110CDÇNUMBER SIGN ABOVE#110D0ÀSORA SOMPENG LETTER SAHÔTAHÔBAHÔCAHÔDAHÔGAHÔMAH",
  "ÔNGAHÔLAHÔNAHÔVAHÔPAHÔYAHÔRAHÔHAHÔKAHÔJAHÔNYAHÔAHÔEEHÔIHÔUHÔOHÔEHÔMAE#110F0ÍDIGIT ZEROÓONEÓTWOÔH",
  "REEÓFOURÔIVEÓSIXÔEVENÓEIGHTÓNINE#11100ÀCHAKMA SIGN CANDRABINDUÌANUSVARAÌVISARGAÇLETTER AAÎIÎUÎEÎ",
  "KAAÏHAAÎGAAÏHAAÎNGAAÎCAAÏHAAÎJAAÏHAAÎNYAAÎTTAAÐHAAÎDDAAÐHAAÎNNAAÎTAAÏHAAÎDAAÏHAAÎNAAÎPAAÏHAAÎBAA",
  "ÏHAAÎMAAÎYYAAÏAAÎRAAÎLAAÎWAAÎSAAÎHAAÇVOWEL SIGN AÒIÓIÒUÓUÒEÒAIÒOÒAUÒOIÇO MARKÇAU MARKÇVIRAMAÇMAA",
  "YYAA#11136ÇDIGIT ZEROÍONEÍTWOÎHREEÍFOURÎIVEÍSIXÎEVENÍEIGHTÍNINEÇSECTION MARKÇDANDAÈOUBLE DANDAÇQ",
  "UESTION MARKÇLETTER LHAAÇVOWEL SIGN AAÒEIÇLETTER VAA#11150ÀMAHAJANI LETTER AÐIÐUÐEÐOÐKAÑHAÐGAÑHA",
  "ÐCAÑHAÐJAÑHAÐNYAÐTTAÒHAÐDDAÒHAÐNNAÐTAÑHAÐDAÑHAÐNAÐPAÑHAÐBAÑHAÐMAÐRAÐLAÐVAÐSAÐHAÐRRAÉSIGN NUKTAÉA",
  "BBREVIATION SIGNÉSECTION MARKÉLIGATURE SHRI#11180ÀSHARADA SIGN CANDRABINDUÍANUSVARAÍVISARGAÈLETT",
  "ER AÐAÏIÐIÏUÐUÏVOCALIC RØR×LØLÏEÏAIÏOÏAUÏKAÐHAÏGAÐHAÏNGAÏCAÐHAÏJAÐHAÏNYAÏTTAÑHAÏDDAÑHAÏNNAÏTAÐHA",
  "ÏDAÐHAÏNAÏPAÐHAÏBAÐHAÏMAÏYAÏRAÏLAÐLAÏVAÏSHAÐSAÐAÏHAÈVOWEL SIGN AAÓIÔIÓUÔUÓVOCALIC RÜRÛLÜLÓEÓAIÓO",
  "ÓAUÈSIGN VIRAMAÍAVAGRAHAÍJIHVAMULIYAÍUPADHMANIYAÈOMÈDANDAÉOUBLE DANDAÈABBREVIATION SIGNÈSEPARATO",
  "RÉANDHI MARKÉIGN NUKTAÈVOWEL MODIFIER MARKÈEXTRA SHORT VOWEL MARKÈSUTRA MARKÈVOWEL SIGN PRISHTHA",
  "MATRA EÈSIGN INVERTED CANDRABINDUÈDIGIT ZEROÎONEÎTWOÏHREEÎFOURÏIVEÎSIXÏEVENÎEIGHTÎNINEÈEKAMÈSIGN ",
  "SIDDHAMÈHEADSTROKEÈCONTINUATION SIGNÈSECTION MARK-1Õ2#111E1ÁINHALA ARCHAIC DIGIT ONEÖTWO×HREEÖFO",
  "UR×IVEÖSIX×EVENÖEIGHTÖNINEÐNUMBER TENØWENTYØHIRTY×FORTYØIFTY×SIXTYØEVENTY×EIGHTY×NINETY×ONE HUND",
  "REDÛTHOUSAND#11200ÀKHOJKI LETTER AÏAÎIÎUÎEÎAIÎOÎAUÎKAÏHAÎGAÏGAÏHAÎNGAÎCAÏHAÎJAÏJA#11213ÎNYAÎTTAÐ",
  "HAÎDDAÐHAÎNNAÎTAÏHAÎDAÏDDAÏHAÎNAÎPAÏHAÎBAÏBAÏHAÎMAÎYAÎRAÎLAÎVAÎSAÎHAÎLLAÇVOWEL SIGN AAÒIÓIÒUÒEÒA",
  "IÒOÒAUÇSIGN ANUSVARAÌVIRAMAÌNUKTAÌSHADDAÇDANDAÈOUBLE DANDAÇWORD SEPARATORÇSECTION MARKÇDOUBLE SE",
  "CTION MARKÇABBREVIATION SIGNÇSIGN SUKUN#11280ÀMULTANI LETTER AÏIÏUÏEÏKAÐHAÏGA#11288ÐHA#1128AÏCAÐ",
  "HAÏJAÐJA#1128FÏNYAÏTTAÑHAÏDDAÑDAÑHAÏNNAÏTAÐHAÏDAÐHAÏNAÏPAÐHAÏBA#1129FÐHAÏMAÏYAÏRAÏLAÏVAÏSAÏHAÏRR",
  "AÐHAÈSECTION MARK#112B0ÀKHUDAWADI LETTER AÒAÑIÒIÑUÒUÑEÑAIÑOÑAUÑKAÒHAÑGAÒGAÒHAÑNGAÑCAÒHAÑJAÒJAÒHA",
  "ÑNYAÑTTAÓHAÑDDAÓDAÑRRAÑDDHAÑNNAÑTAÒHAÑDAÒHAÑNAÑPAÒHAÑBAÒBAÒHAÑMAÑYAÑRAÑLAÑVAÑSHAÒAÑHAÊSIGN ANUSV",
  "ARAÊVOWEL SIGN AAÕIÖIÕUÖUÕEÕAIÕOÕAUÊSIGN NUKTAÏVIRAMA#112F0ÊDIGIT ZEROÐONEÐTWOÑHREEÐFOURÑIVEÐSIX",
  "ÑEVENÐEIGHTÐNINE#11300ÀGRANTHA SIGN COMBINING ANUSVARA ABOVEÎANDRABINDUÍANUSVARAÍVISARGA#11305ÈL",
  "ETTER AÐAÏIÐIÏUÐUÏVOCALIC R×L#1130FÏEEÏAI#11313ÏOOÏAUÏKAÐHAÏGAÐHAÏNGAÏCAÐHAÏJAÐHAÏNYAÏTTAÑHAÏDDA",
  "ÑHAÏNNAÏTAÐHAÏDAÐHAÏNA#1132AÏPAÐHAÏBAÐHAÏMAÏYAÏRA#11332ÏLAÐLA#11335ÏVAÏSHAÐSAÐAÏHA#1133BÀCOMBINI",
  "NG BINDU BELOWÀGRANTHA SIGN NUKTAÍAVAGRAHAÈVOWEL SIGN AAÓIÔIÓUÔUÓVOCALIC RÜR#11347ÓEEÓAI#1134BÓO",
  "OÓAUÈSIGN VIRAMA#11350ÈOM#11357ÈAU LENGTH MARK#1135DÈSIGN PLUTAÈLETTER VEDIC ANUSVARAÕDOUBLE ANU",
  "SVARAÐOCALIC RR×LLÈVOWEL SIGN VOCALIC LÜL#11366ÀCOMBINING GRANTHA DIGIT ZEROØONEØTWOÙHREEØFOURÙI",
  "VEØSIX#11370ÒLETTER AÙKAÙNAÙVIÙPA#11400ÀNEWA LETTER AÍAÌIÍIÌUÍUÌVOCALIC RÕRÔLÕLÌEÌAIÌOÌAUÌKAÍHAÌ",
  "GAÍHAÌNGAÎHAÌCAÍHAÌJAÍHAÌNYAÎHAÌTTAÎHAÌDDAÎHAÌNNAÌTAÍHAÌDAÍHAÌNAÍHAÌPAÍHAÌBAÍHAÌMAÍHAÌYAÌRAÍHAÌL",
  "AÍHAÌWAÌSHAÍSAÍAÌHAÅVOWEL SIGN AAÐIÑIÐUÑUÐVOCALIC RÙRØLÙLÐEÐAIÐOÐAUÅSIGN VIRAMAÊCANDRABINDUÊANUS",
  "VARAÊVISARGAÊNUKTAÊAVAGRAHAÊFINAL ANUSVARAÅOMÅSIDDHIÅDANDAÆOUBLE DANDAÅCOMMAÅGAP FILLERÅABBREVIA",
  "TION SIGNÅDIGIT ZEROËONEËTWOÌHREEËFOURÌIVEËSIXÌEVENËEIGHTËNINEÆOUBLE COMMAÅPLACEHOLDER MARK#1145",
  "DÅINSERTION SIGNÅSANDHI MARKÅLETTER VEDIC ANUSVARAÅSIGN JIHVAMULIYAÊUPADHMANIYA#11480ÀTIRHUTA AN",
  "JIÈLETTER AÐAÏIÐIÏUÐUÏVOCALIC RØR×LØLÏEÏAIÏOÏAUÏKAÐHAÏGAÐHAÏNGAÏCAÐHAÏJAÐHAÏNYAÏTTAÑHAÏDDAÑHAÏNN",
  "AÏTAÐHAÏDAÐHAÏNAÏPAÐHAÏBAÐHAÏMAÏYAÏRAÏLAÏVAÏSHAÐSAÐAÏHAÈVOWEL SIGN AAÓIÔIÓUÔUÓVOCALIC RÜRÛLÜLÓEÓ",
  "SHORT EÓAIÓOÓSHORT OÓAUÈSIGN CANDRABINDUÍANUSVARAÍVISARGAÏRAMAÍNUKTAÍAVAGRAHAÈGVANGÈABBREVIATION ",
  "SIGNÈOM#114D0ÈDIGIT ZEROÎONEÎTWOÏHREEÎFOURÏIVEÎSIXÏEVENÎEIGHTÎNINE#11580ÀSIDDHAM LETTER AÐAÏIÐIÏ",
  "UÐUÏVOCALIC RØR×LØLÏEÏAIÏOÏAUÏKAÐHAÏGAÐHAÏNGAÏCAÐHAÏJAÐHAÏNYAÏTTAÑHAÏDDAÑHAÏNNAÏTAÐHAÏDAÐHAÏNAÏP",
  "AÐHAÏBAÐHAÏMAÏYAÏRAÏLAÏVAÏSHAÐSAÐAÏHAÈVOWEL SIGN AAÓIÔIÓUÔUÓVOCALIC RÜR#115B8ÓEÓAIÓOÓAUÈSIGN CAN",
  "DRABINDUÍANUSVARAÍVISARGAÏRAMAÍNUKTAÍSIDDHAMÈDANDAÉOUBLE DANDAÈSEPARATOR DOTÒBARÈREPETITION MARK",
  "-1Ø2Ø3ÈEND OF TEXT MARKÈSECTION MARK WITH TRIDENT AND U-SHAPED ORNAMENTSæDOTTED CRESCENTSÚRAYS A",
  "ND DOTTED CRESCENTSêDOUBLE CRESCENTSêTRIPLE CRESCENTSÕDOUBLE RINGà WITH RAYSÕWITH DOUBLE CRESCEN",
  "TSÚTRIPLE CRESCENTSÚQUADRUPLE CRESCENTSÚSEPTUPLE CRESCENTSÚCIRCLES AND RAYSæTWO ENCLOSURESæFOUR ",
  "ENCLOSURESÈLETTER THREE-CIRCLE ALTERNATE IÐWO-CIRCLE ALTERNATE IåIÏALTERNATE UÈVOWEL SIGN ALTERN",
  "ATE UÞU#11600ÀMODI LETTER AÍAÌIÍIÌUÍUÌVOCALIC RÕRÔLÕLÌEÌAIÌOÌAUÌKAÍHAÌGAÍHAÌNGAÌCAÍHAÌJAÍHAÌNYAÌ",
  "TTAÎHAÌDDAÎHAÌNNAÌTAÍHAÌDAÍHAÌNAÌPAÍHAÌBAÍHAÌMAÌYAÌRAÌLAÌVAÌSHAÍSAÍAÌHAÌLLAÅVOWEL SIGN AAÐIÑIÐUÑ",
  "UÐVOCALIC RÙRØLÙLÐEÐAIÐOÐAUÅSIGN ANUSVARAÊVISARGAÌRAMAÊARDHACANDRAÅDANDAÆOUBLE DANDAÅABBREVIATIO",
  "N SIGNÅSIGN HUVA#11650ÅDIGIT ZEROËONEËTWOÌHREEËFOURÌIVEËSIXÌEVENËEIGHTËNINE#11660ÂNGOLIAN BIRGA ",
  "WITH ORNAMENTÊROTATED BIRGAÊDOUBLE BIRGA WITH ORNAMENTÊTRIPLE BIRGA WITH ORNAMENTÊBIRGA WITH DOU",
  "BLE ORNAMENTÊROTATED BIRGA WITH ORNAMENTÝDOUBLE ORNAMENTÊINVERTED BIRGAØ WITH DOUBLE ORNAMENTÊSW",
  "IRL BIRGAÕ WITH ORNAMENTÛDOUBLE ORNAMENTÊTURNED SWIRL BIRGA WITH DOUBLE ORNAMENT#11680ÀTAKRI LET",
  "TER AÎAÍIÎIÍUÎUÍEÍAIÍOÍAUÍKAÎHAÍGAÎHAÍNGAÍCAÎHAÍJAÎHAÍNYAÍTTAÏHAÍDDAÏHAÍNNAÍTAÎHAÍDAÎHAÍNAÍPAÎHA",
  "ÍBAÎHAÍMAÍYAÍRAÍLAÍVAÍSHAÎAÍHAÍRRAÆSIGN ANUSVARAËVISARGAÆVOWEL SIGN AAÑIÒIÑUÒUÑEÑAIÑOÑAUÆSIGN VI",
  "RAMAËNUKTAÆLETTER ARCHAIC KHAÆABBREVIATION SIGN#116C0ÆDIGIT ZEROÌONEÌTWOÍHREEÌFOURÍIVEÌSIXÍEVENÌ",
  "EIGHTÌNINE#11700ÀAHOM LETTER KAÍHAÌNGAÍAÌTAÌALTERNATE TAÌPAÍHAÌBAÌMAÌJAÌCHAÌTHAÌRAÌLAÌSAÌNYAÌHAÌ",
  "AÌDAÍHAÌGAÌALTERNATE GAÌGHAÌBHAÌJHAÌALTERNATE BA#1171DÅCONSONANT SIGN MEDIAL LAÛRAÛLIGATING RAÅV",
  "OWEL SIGN AÑAÐIÑIÐUÑUÐEÐAWÐOÐAIÑMÅSIGN KILLER#11730ÅDIGIT ZEROËONEËTWOÌHREEËFOURÌIVEËSIXÌEVENËEI",
  "GHTËNINEÅNUMBER TENÍWENTYÅSIGN SMALL SECTIONËECTIONÊRULAIÆYMBOL VIÅLETTER CAÌTTAÎHAÌDDAÎHAÌNNAÌL",
  "LA#11800ÀDOGRA LETTER AÎAÍIÎIÍUÎUÍEÍAIÍOÍAUÍKAÎHAÍGAÎHAÍNGAÍCAÎHAÍJAÎHAÍNYAÍTTAÏHAÍDDAÏHAÍNNAÍTA",
  "ÎHAÍDAÎHAÍNAÍPAÎHAÍBAÎHAÍMAÍYAÍRAÍLAÍVAÍSHAÎSAÎAÍHAÍRRAÆVOWEL SIGN AAÑIÒIÑUÒUÑVOCALIC RÚRÑEÑAIÑO",
  "ÑAUÆSIGN ANUSVARAËVISARGAÍRAMAËNUKTAÆABBREVIATION SIGN#118A0ÀWARANG CITI CAPITAL LETTER NGAAÛAÛW",
  "IÛYUÜAÜOÛIIÛUUÛEÛOÛANGÛGAÛKOÛENYÛYUJÛUCÛENNÛODDÛTTEÛNUNGÛDAÛATÜMÛBUÛPUÛHIYOÜOLOÝRRÜARÛSSUUÜIIÛVI",
  "YOÌSMALL LETTER NGAAÙAÙWIÙYUÚAÚOÙIIÙUUÙEÙOÙANGÙGAÙKOÙENYÙYUJÙUCÙENNÙODDÙTTEÙNUNGÙDAÙATÚMÙBUÙPUÙH",
  "IYOÚOLOÛRRÚARÙSSUUÚIIÙVIYOÌDIGIT ZEROÒONEÒTWOÓHREEÒFOURÓIVEÒSIXÓEVENÒEIGHTÒNINEÌNUMBER TENÔWENTY",
  "ÔHIRTYÓFORTYÔIFTYÓSIXTYÔEVENTYÓEIGHTYÓNINETY#118FFÌOMÀDIVES AKURU LETTER AÔAÓIÔIÓUÔUÓE#11909ÓO#1",
  "190CÓKAÔHAÓGAÔHAÓNGAÓCAÔHAÓJA#11915ÓNYAÓTTA#11918ÓDDAÕHAÓNNAÓTAÔHAÓDAÔHAÓNAÓPAÔHAÓBAÔHAÓMAÓYAÔYA",
  "ÓRAÓLAÓVAÓSHAÔSAÔAÓHAÓLLAÓZAÌVOWEL SIGN AA×IØI×UØU×E#11937×AI×O#1193BÌSIGN ANUSVARAÑCANDRABINDUÑ",
  "HALANTAÌVIRAMAÌPREFIXED NASAL SIGNÌMEDIAL YAÌINITIAL RAÌMEDIAL RAÌSIGN NUKTAÌDOUBLE DANDAÌGAP FI",
  "LLERÌEND OF TEXT MARK#11950ÌDIGIT ZEROÒONEÒTWOÓHREEÒFOURÓIVEÒSIXÓEVENÒEIGHTÒNINE#119A0ÀNANDINAGA",
  "RI LETTER AÔAÓIÔIÓUÔUÓVOCALIC RÜR#119AAÓEÓAIÓOÓAUÓKAÔHAÓGAÔHAÓNGAÓCAÔHAÓJAÔHAÓNYAÓTTAÕHAÓDDAÕHAÓ",
  "NNAÓTAÔHAÓDAÔHAÓNAÓPAÔHAÓBAÔHAÓMAÓYAÓRAÓLAÓVAÓSHAÔSAÔAÓHAÓLLAÓRRAÌVOWEL SIGN AA×IØI×UØU×VOCALIC ",
  "RàR#119DA×E×AI×O×AUÌSIGN ANUSVARAÑVISARGAÓRAMAÑAVAGRAHAÑSIDDHAMÌHEADSTROKEÌVOWEL SIGN PRISHTHAMA",
  "TRA E#11A00ÀZANABAZAR SQUARE LETTER AÑVOWEL SIGN IÜUEÝÜEÜOEÝÜAIÝUÜREVERSED I×LENGTH MARKÑLETTER ",
  "KAÙHAØGAÙHAØNGAØCAÙHAØJAØNYAØTTAÚHAØDDAÚHAØNNAØTAÙHAØDAÙHAØNAØPAÙHAØBAÙHAØMAØTSAÚHAØDZAÚHAØZHAÙA",
  "Ø-AØYAØRAØLAØVAØSHAÙSAÙAØHAØKSSAÑFINAL CONSONANT MARKÑSIGN VIRAMAÖCANDRABINDUá WITH ORNAMENTÜ WI",
  "TH ORNAMENTÖANUSVARAÖVISARGAÑCLUSTER-INITIAL LETTER RAÙFINAL LETTER YAæRAæLAæVAÑINITIAL HEAD MAR",
  "KÑCLOSING HEAD MARKÑMARK TSHEGÖSHADÖDOUBLE SHADÖLONG TSHEGÑINITIAL DOUBLE-LINED HEAD MARKÑCLOSIN",
  "G DOUBLE-LINED HEAD MARKÑSUBJOINER#11A50ÀSOYOMBO LETTER AÈVOWEL SIGN IÓUEÔÓEÓOÔEÓAIÔUÓVOCALIC RÛ",
  "LÎLENGTH MARKÈLETTER KAÐHAÏGAÐHAÏNGAÏCAÐHAÏJAÐHAÏNYAÏTTAÑHAÏDDAÑHAÏNNAÏTAÐHAÏDAÐHAÏNAÏPAÐHAÏBAÐH",
  "AÏMAÏTSAÑHAÏDZAÏZHAÐAÏ-AÏYAÏRAÏLAÏVAÏSHAÐSAÐAÏHAÏKSSAÈSIGN JIHVAMULIYAÍUPADHMANIYAÈCLUSTER-INITI",
  "AL LETTER RAßLAßSHAàAÈFINAL CONSONANT SIGN GÝKÝNGÝDÝNÝBÝMÝRÝLÝSHÞÝ-AÈSIGN ANUSVARAÍVISARGAÈGEMIN",
  "ATION MARKÈSUBJOINERÈMARK TSHEGÍSHADÍDOUBLE SHADÍPLUTAÈHEAD MARK WITH MOON AND SUN AND TRIPLE FL",
  "AMEèFLAMEãÈTERMINAL MARK-1Ö2#11AB0ÀCANADIAN SYLLABICS NATTILIK HIÞIÝOÞOÝAÞAÜSHRIàIßOàOßAàAÓSPEÕI",
  "ÕOÕAÀPAU CIN HAU LETTER PAÓKAÓLAÓMAÓDAÓZAÓVAÓNGAÓHAÓGAÓKHAÓSAÓBAÓCAÓTAÔHAÓNAÓPHAÓRAÓFAÓCHAÓAÓEÓI",
  "ÓOÓUÔAÓIAÓFINAL PÙKÙTÙMÙNÙLÙWÙNGÙYÌRISING TONE LONG×ÌSANDHI GLOTTAL STOPÌRISING TONE LONG FINALØ",
  "FINALÌSANDHI GLOTTAL STOP FINALÓTONE LONG×× LONG FINALØFINALÌMID-LEVEL TONEÌGLOTTAL STOP VARIANT",
  "ÌMID-LEVEL TONE LONG FINALÛFINALÌLOW-FALLING TONE LONGÜÌGLOTTAL STOPÌLOW-FALLING TONE LONG FINAL",
  "ÝFINALÌGLOTTAL STOP FINAL#11C00ÀBHAIKSUKI LETTER AÒAÑIÒIÑUÒUÑVOCALIC RÚRÙL#11C0AÑEÑAIÑOÑAUÑKAÒHA",
  "ÑGAÒHAÑNGAÑCAÒHAÑJAÒHAÑNYAÑTTAÓHAÑDDAÓHAÑNNAÑTAÒHAÑDAÒHAÑNAÑPAÒHAÑBAÒHAÑMAÑYAÑRAÑLAÑVAÑSHAÒSAÒAÑ",
  "HAÊVOWEL SIGN AAÕIÖIÕUÖUÕVOCALIC RÞRÝL#11C38ÕEÕAIÕOÕAUÊSIGN CANDRABINDUÏANUSVARAÏVISARGAÑRAMAÏAV",
  "AGRAHAÊDANDAËOUBLE DANDAÊWORD SEPARATORÊGAP FILLER-1Õ2#11C50ÊDIGIT ZEROÐONEÐTWOÑHREEÐFOURÑIVEÐSI",
  "XÑEVENÐEIGHTÐNINEÊNUMBER ONEÑTWOÒHREEÑFOURÒIVEÑSIXÒEVENÑEIGHTÑNINEÑTENÒWENTYÒHIRTYÑFORTYÒIFTYÑSI",
  "XTYÒEVENTYÑEIGHTYÑNINETYÊHUNDREDS UNIT MARK#11C70ÀMARCHEN HEAD MARKÈMARK SHADÈLETTER KAÐHAÏGAÏNG",
  "AÏCAÐHAÏJAÏNYAÏTAÐHAÏDAÏNAÏPAÐHAÏBAÏMAÏTSAÑHAÏDZAÏWAÏZHAÐAÏ-AÏYAÏRAÏLAÏSHAÐAÏHAÏA#11C92ÈSUBJOINE",
  "D LETTER KAÚHAÙGAÙNGAÙCAÚHAÙJAÙNYAÙTAÚHAÙDAÙNAÙPAÚHAÙBAÙMAÙTSAÛHAÙDZAÙWAÙZHAÚA#11CA9ÙYAÙRAÙLAÙSH",
  "AÚAÙHAÙAÈVOWEL SIGN AAÓIÓUÓEÓOÈSIGN ANUSVARAÍCANDRABINDU#11D00ÂSARAM GONDI LETTER AÖAÕIÖIÕUÖUÕE#",
  "11D08ÕAIÕO#11D0BÕAUÕKAÖHAÕGAÖHAÕNGAÕCAÖHAÕJAÖHAÕNYAÕTTA×HAÕDDA×HAÕNNAÕTAÖHAÕDAÖHAÕNAÕPAÖHAÕBAÖHA",
  "ÕMAÕYAÕRAÕLAÕVAÕSHAÖSAÖAÕHAÕLLAÕKSSAÕJNYAÕTRAÎVOWEL SIGN AAÙIÚIÙUÚUÙVOCALIC R#11D3AÙE#11D3CÙAIÙO",
  "#11D3FÙAUÎSIGN ANUSVARAÓVISARGAÓNUKTAÓCANDRAÓHALANTAÎVIRAMAÎREPHAÏA-KARA#11D50ÎDIGIT ZEROÔONEÔTW",
  "OÕHREEÔFOURÕIVEÔSIXÕEVENÔEIGHTÔNINE#11D60ÀGUNJALA GONDI LETTER AÖAÕIÖIÕUÖU#11D67ÕEEÕAI#11D6AÕOOÕ",
  "AUÕYAÕVAÕBAÖHAÕMAÕKAÖHAÕTAÖHAÕLAÕGAÖHAÕDAÖHAÕNAÕCAÖHAÕTTA×HAÕLLAÕJAÖHAÕDDA×HAÕNGAÕPAÖHAÕHAÕRAÕSA",
  "ÎVOWEL SIGN AAÙIÚIÙUÚU#11D90ÙEEÙAI#11D93ÙOOÙAUÎSIGN ANUSVARAÓVISARGAÎVIRAMAÎOM#11DA0ÎDIGIT ZEROÔ",
  "ONEÔTWOÕHREEÔFOURÕIVEÔSIXÕEVENÔEIGHTÔNINE#11EE0ÀMAKASAR LETTER KAÏGAÏNGAÏPAÏBAÏMAÏTAÏDAÏNAÏCAÏJA",
  "ÏNYAÏYAÏRAÏLAÏVAÏSAÏAÈANGKAÈVOWEL SIGN IÓUÓEÓOÈPASSIMBANGÈEND OF SECTION#11FB0ÀLISU LETTER YHA#1",
  "1FC0ÀTAMIL FRACTION ONE THREE-HUNDRED-AND-TWENTIETHÓONE-HUNDRED-AND-SIXTIETHÓEIGHTIETHÓSIXTY-FOU",
  "RTHÓFORTIETHÓTHIRTY-SECONDÏTHREE EIGHTIETHSÕSIXTY-FOURTHSÏONE TWENTIETHÓSIXTEENTH-1Ý2ÓTENTHÓEIGH",
  "THÏTHREE TWENTIETHSÕSIXTEENTHSÏONE FIFTHÓQUARTERÓHALF-1Ø2ÏTHREE QUARTERSÏDOWNSCALING FACTOR KIIZ",
  "HÆSIGN NELËCEVITUËAAZHAAKKUËUZHAKKUËMUUVUZHAKKUËKURUNIËPATHAKKUËMUKKURUNIËKAACUËPANAMÌONËVARAAKA",
  "NËPAARAMËKUZHIËVELIÆWET CULTIVATION SIGNÆDRY CULTIVATION SIGNÆLAND SIGNÆSALT PAN SIGNÆTRADITIONA",
  "L CREDIT SIGNÒNUMBER SIGNÆCURRENT SIGNÆAND ODD SIGNÆSPENT SIGNÆTOTAL SIGNÆIN POSSESSION SIGNÆSTA",
  "RTING FROM SIGNÇIGN MUTHALIYAËVAKAIYARAA#11FFFÆPUNCTUATION END OF TEXTÀCUNEIFORM SIGN AÐ TIMES A",
  "×BAD×GAN2 TENU×HA×IGI×LAGAR GUNU×MUSH×SAGÐ2ÐBÑ TIMES ASH2ØDUN3 GUNUØGALÚN2 TENUØHAØIGI GUNUÙMINØ",
  "LAGABØSHESHØU PLUS U PLUS UÒGUNUÑ2Ò TIMES BALAGÙGAN2 TENUÙME PLUS ENÙSHA3ÙTAK4ÐDÐKÑ TIMES ERIN2Ø",
  "SHITA PLUS GISHÐLÑ TIMES ALØDIM2ØGISHØHAØKAD3ÙIØSHEØUSHÑANÑEPHÐMARÓ TIMES SHEÐNÑ OVER ANÒTHREE T",
  "IMESÒPLUS NAGA OPPOSING AN PLUS NAGAÜSQUAREDÑSHEÐPINÐRADÓ TIMES KURÑKABÐSAL2ÑHÒ ZIDA TENUÓKABA T",
  "ENUÓOVER ASH TUG2 OVER TUG2 TUG2 OVER TUG2 PAPÜOVER ASHä CROSSING ASH OVER ASH OVER ASHÒ2ÒGABÏBA",
  "ÑDÑG3ÑHAR2ÑLÒ OVER BALÒAGÑRÒA2ÐIÑ TIMES AØGARØIGI GUNUÐUÑ OVER BU ABÚUNÒCROSSING BUÑLUGÔ OVER BU",
  "LUGÑRÒ2ÏDAÑGÒ KISIM5 TIMES A PLUS MASHáMARàBALAGáIàGAâ PLUS MASHáIâR2áUDàHAàIRâ PLUS LUàKAKàLAáU",
  "â PLUS MASH2âMàNEàPAP PLUS PAPàSIàTAK4àU2 PLUS GIR2áSHÑMÑRÒA3Ó4ÐIÑBÑMÒ TIMES SHEÒ2ÑNÒ KASKAL U G",
  "UNU DISHÑSHÐUÑ OVER DUÒGUNUÒSHESHIGÑBÒ TIMES ESH2Ò2ÑGÒUDÑHÑNÒ3Ó GUNUØ GUNUÒ4ÑR2ÏEÐ TIMES PAPÑOVE",
  "R E NUN OVER NUNÐ2Ñ TIMES A PLUS HA PLUS DAØGARØMIØSALÙHEØUÐDINÐGIRÐLÐNÑ TIMES GAN2Ü TENUØMEÒCRO",
  "SSING ENÒOPPOSING ENÒSQUAREDÐRENÑIN2ÐSH2ÐZENÓ TIMES AÛ PLUS LALä TIMES LALÛNÚBADÚDUN3 GUNUã GUNU",
  "ÚHAÜ GUNUÚIGI GUNUÚKASKALà SQUAREDÛU3ÚLAÜL TIMES LALÛIÛUÚU2ÛDÏGAÑ GUNUÑ2Ò TIMES A PLUS DA PLUS H",
  "AàHAàIGIÚB2 TENU PLUS TABÚNÚSHÜ2 PLUS GALÙBADÛR PLUS RAÚURÜ PLUS RAÙDAÚIÛM TIMES SHEÚUBÙELÛ PLUS ",
  "LAÚNÛ TIMES GAN2 TENUÙGAN2 TENUÛRÚIÛ4Ü PLUS AÛR2 PLUS SUÙHA PLUS LU PLUS ESH2ÛLÜ PLUS LAÚI PLUS ",
  "LIÚUB2ÙIGI GUNUÚSH PLUS HU PLUS ASHÙKAKÛSKALÚIDÜ PLUS LALÚU3 PLUS ANÙLAÙME PLUS ENÚIÙNUNÜ OVER N",
  "UNÙPAÙSALÛRÚHEÜ PLUS TURÛIDÚUMÙTAK4ÙUÚDÛ PLUS DUÓOVER GA2ÑBAÓ CROSSING GABAÑDÒ OVER GAD GAR OVER ",
  "GARÑLÒ GAD OVER GAD GAR OVER GARÒAMÑMÑNÒ2Ó TENUÔOVER GAN2ÔCROSSING GAN2ÑRÒ3ÑSHANÐESHTINÖ TIMES K",
  "URÐIÑ TIMES EØUÒCROSSING GIÑ4Ò OVER GI4ÓCROSSING GI4ÑDIMÑR2Ó GUNUÒ3Ó TIMES A PLUS IGIÚGAN2 TENUÚ",
  "IGIÚLU PLUS IGIÚPAÑSALÒHÓ CROSSING GISHÔTIMES BADÚTAK4ÕENUÐUÑ CROSSING GUÑ2Ò TIMES KAKÜ TIMES IG",
  "I GUNUÙNUNÙSAL PLUS TUG2ÓGUNUÑDÒ TIMES A PLUS KURÙKURÓOVER GUD LUGALÑLÑMÒ TIMES SHEÑRÒ7ÒUNÓSHÏHA",
  "Ñ TENUÒGUNUÑLÐIÑ TIMES ASHÛ2ØBADØDISHØGADØKINØNUNØSHEØUÐUÑB2Ó TIMES ANÚHALÚKASKALÚLISHÚUDÑL2ÏIÐ ",
  "AÐBÐDIMÓ OVER IDIM BURÞSQUAREDÐGÑIÒ DIBÓRIÓOVER IGI SHIR OVER SHIR UD OVER UDÓGUNUÐLÑ TIMES GAN2 ",
  "TENUÑ2ÐMÑ TIMES TAK4ÒCROSSING IMÒOPPOSING IMÒSQUAREDÑINÐNÐRÐSHÏKAÑ TIMES AÙDÚ PLUS KU3ÙSH2ØBADÚL",
  "AGÚRÙIØERIN2ÙSH2ØGAÚLÚN2 TENUÚRÛ PLUS SHA3 PLUS AÙIÚR2ÚSH PLUS SARÝCROSSING GISHÙUÚR7ØIGIÙMØKAKÙ",
  "IÚDØLIÙUØMEÚ PLUS DUàGIàTEÙIÚ PLUS NUNUZØNEÙUNØPIØRUØSAÚRÙHAÚEÚIDÚUÙIGÙUHURØTARØUÙ2ÙDÙMUM TIMES ",
  "PAÙSHØZIÑ2Ò CROSSING KA2ÑBÑD2Ò3Ò4Ò5Ó OVER KAD5ÑKÒ TIMES IGI GUNUÑLÒ TIMES BADÓCROSSING KALÑM2Ò4Ñ",
  "SKALÕ LAGAB TIMES U OVER LAGAB TIMES UÖOVER KASKAL LAGAB TIMES U OVER LAGAB TIMES UÐESH2ÐIÑ TIME",
  "S BADØUÙDÑDÑNÑSALÒHÒIM5Õ OVER KISIM5ÐUÑ OVER HI TIMES ASH2 KU OVER HI TIMES ASH2Ñ3Ñ4Ò VARIANT FO",
  "RMÑ7ÑLÒ GUNUÑNÑRÒ OPPOSING KURÑSHU2ÐWU318ÏLAÑGABÔ TIMES AÜ PLUS DA PLUS HAâGARâLALÜLÜNÜSH ZIDA T",
  "ENUÛBADÜIÛDARÛENÛGAÝRÜUDÞ PLUS GUDÛHAÝLÜI TIMES NUNÛIGI GUNUÜMÝ PLUS HAãLUÛKIÝNÜU3ÝLÞ PLUS HI PL",
  "US AÛLAGABÜISHÜUÝLÛMEÝ PLUS ENÜUSHÛNEÛSHE PLUS SUMÝITA PLUS GISH PLUS ERIN2ëTENUÝU2ß PLUS SHU2ÜU",
  "MÛTAGÝK4ÜE PLUS A PLUS SU PLUS NAÛUÜ PLUS AâU PLUS UÜ2 PLUS ASHÜDÜSHÕSQUAREDÓRÔ TIMES SHEÞ PLUS ",
  "SUMÕGUNUÙ OVER LAGAR GUNU SHEÑHSHUÑLÒ TIMES LALÑMÒ TIMES KURÜ PLUS RUÐIÑLÑMMU2ÑSHÐUÑ TIMES BADÑ2",
  "Ò TIMES ALÙBADÙESH2Ý TENUÙGAN2 TENUÙHI TIMES BADÙIMÙKAD2Ü3Ý PLUS ASHÚIÙLA PLUS ASHÛGABÙME PLUS E",
  "NÙNEÚUÙSI PLUS ASHÛK2 PLUS BUÙTUG2ÔENUÓCROSSING LU2ÓOPPOSING LU2ÓSQUAREDÔHESHIGÑ3ÑGALÔ OVER LUGA",
  "LÖPPOSING LUGALÕSHESHIGÑHÑLÑMÒ OVER LUMÛ GAR OVER GARÏMAÑ TIMES TAK4ÒGUNUÑ2ÑHÑRÑSHÓ2ÐEÑSÐIÑNÐUÑ ",
  "OVER MUÑGÒ GUNUÑNSUBÑRGU2ÑSHÓ TIMES AÚKURÚZAÔOVER MUSHÝ TIMES A PLUS NAÔCROSSING MUSHÓ3Ô TIMES A",
  "Ü PLUS DIÛDIÕGUNUÏNAÑ2ÑGAÓ INVERTEDÔTIMES SHU TENUÔOPPOSING NAGAÓRÑM NUTILLUÒÒ2ÐEÑ TIMES AØUDÒSH",
  "ESHIGÐIÑ TIMES EÑ2ÑMÒ TIMES GAN2 TENUÛR PLUS GAN2 TENUÑNDA2Õ TIMES ANÝSHß PLUS ASHÜGUDÜME PLUS G",
  "AN2 TENUÜNEÝUNÜSHEß PLUS A ANæSHè PLUS ASHÜU2 PLUS ASHÝSHÑSAGÐUÑ11ÑNÒ LAGAR TIMES GARßMASHßSALâ ",
  "OVER NUN LAGAR TIMES SALßUSHÓTENUÓOVER NUNÓCROSSING NUNß LAGAR OVER LAGARÒUZÔ AB2 TIMES ASHGABßB",
  "IßDUGßGUDßIGI GUNUßKAD3ßLAßNEßSILA3ßU2ÕKISIM5 TIMES BIä UÏPAÑDÑNÑPÐESH2ÐIÑ TIMES AÙBØBIÙUØEØIÙBØ",
  "UÙ2ÒCROSSING PIÑRIGÔ TIMES KALÛUDÛZAÕOPPOSING PIRIGÏRAÑBÐIÐUÏSAÑG NUTILLUÒÒ TIMES AÙDUÛBÙHAÙKAKÚ",
  "URÙLUMÙMIÙNUNÙSALÚHIDÙTABÙU2ÚBÚMÚRÚSHÓOVER SAGÓGUNUÑLÒ LAGAB TIMES ASH2ÑNGA2ÑRÐHAÒ3Ó TIMES AÚBAD",
  "ÚGISHÚNEÚSHU2ÚTURÚUÛ PLUS AÒ6ÒB6ÒR2ÑEÒ HUÓOVER SHE GAD OVER GAD GAR OVER GARÜTAB OVER TAB GAR OV",
  "ER GARÒG9ÒNÒSHÔ2ÔLAMÑIDÓ TIMES AÚIMÒMÓ TIMES AÚBALÛULUGÚDINÚGARÚIGIÝ GUNUÚKUSHU2ÚLULÚMUGÚSALÒNIG",
  "ÒRÓ TENUÔOVER SHIR BUR OVER BURÒTAÑUÒ OVER INVERTED SHUÒ2ÒBURÐIÑ GUNUÑGÒ4Ó OVER SIG4 SHU2ÑK2ÑLA3",
  "ÐUÑ OVER SUÑDÒ2ÑHURÑMÒASHÑRÒ9ÏTAÑ ASTERISKÒTIMES HIØMIÒGUNUÑBÒ OVER TAB NI OVER NI DISH OVER DIS",
  "HÓSQUAREDÑGÒ TIMES BIÙGUDÙSHEÛUÙTUG2ÙUDÑK4ÑRÐEÑ GUNUÐIÑ TENUÑLÑRÒ TIMES TAK4ÓOVER TIRÛ GAD OVER ",
  "GAD GAR OVER GARÐUÑG2ÑKÑMÑRÒ OVER TUR ZA OVER ZAÏUÐ GUDÑU UÑOVER U PA OVER PA GAR OVER GARØSUR O",
  "VER SURØU REVERSED OVER U REVERSEDÐ2ÐBÐDÑ KUSHU2ÒTIMES BADØMIØU PLUS U PLUS Uç GUNUÒGUNUÒSHESHIG",
  "Ù TIMES BADÑUGÐMÑ TIMES LAGABØME PLUS DAØSHA3ØUÑBINÑUMÓ TIMES KASKALÚPAÐNÑ GUNUÐRÑ CROSSING URÒS",
  "HESHIGÑ2Ò TIMES A PLUS HAàNAÚLÙHAÙNUNÙU2Û PLUS ASHáBIÑ4ÑIÒ3ÑUÒ TIMES AÚSHGABÙBARÙDUNÙGAÛLÛN2 TEN",
  "UÛRÚUÙHAÙIGIÚMÚSHÙKIÙLUMÙMINÙPAÙSHEÚIG4ÙTUÙU PLUS GUDÚDÚRUDAÒDAÔ TIMES UÐSHÒ TIMES AÙKUÛRÙTAK4ÒX",
  "Ò2ÒUMXÐTUKIÐZ3Ò TIMES KASKALÑUÏZAÑ TENUÒSQUARED TIMES KURÑGÑMXÐE2ÐIÑ OVER ZIÑ3ÑBÒ KABA TENUÑGÑZ2",
  "ÐUÑ5Ò TIMES AÑBURÑMÏKAP ELAMITEÏAB TIMES NUNÑ2 TIMES AÐMAR TIMES KUGÏDAG KISIM5 TIMES U2 PLUS MA",
  "SHÒ3ÐISH PLUS SHUÐUB TIMES SHEÏEZEN TIMES GUDÚSHEÏGA2 TIMES AN PLUS KAK PLUS AÚSH2ÐE22ÐIGÏHUSHÏK",
  "A TIMES ANSHEÙSH3ØGISHÙUDØHI TIMES ASH2ØLUMØPAØSHULØTUØUR2ÏLAGAB TIMES GIÐU2 SHESHIG TIMES BADÓT",
  "IMES ESH2 PLUS LALÙSHUÏMESHÐUSH3 TIMES ZAÏNA4ÐINÒ9ÒDA2 TIMES BALÜGIÐU11 ROTATED NINETY DEGREESÏP",
  "ESH2 ASTERISKÐIR2ÏSAG TIMES IGI GUNUÏTI2ÏUM TIMES MEÐ U#12400ÊNUMERIC SIGN TWO ASHØHREE ASH×FOUR ",
  "ASHØIVE ASH×SIX ASHØEVEN ASH×EIGHT ASH×NINE ASH×THREE DISH×FOUR DISHØIVE DISH×SIX DISHØEVEN DISH",
  "×EIGHT DISH×NINE DISH×FOUR UØIVE U×SIX UØEVEN U×EIGHT U×NINE U×ONE GESH2×TWO GESH2ØHREE GESH2×FO",
  "UR GESH2ØIVE GESH2×SIX GESH2ØEVEN GESH2×EIGHT GESH2×NINE GESH2×ONE GESHU×TWO GESHUØHREE GESHU×FO",
  "UR GESHUØIVE GESHU×TWO SHAR2ØHREE SHAR2â VARIANT FORM×FOUR SHAR2ØIVE SHAR2×SIX SHAR2ØEVEN SHAR2×",
  "EIGHT SHAR2×NINE SHAR2×ONE SHARU×TWO SHARUØHREE SHARUâ VARIANT FORM×FOUR SHARUØIVE SHARU×SHAR2 T",
  "IMES GAL PLUS DISHìMIN×ONE BURU×TWO BURUØHREE BURUá VARIANT FORM×FOUR BURUØIVE BURU×THREE VARIAN",
  "T FORM ESH16í21×FOUR VARIANT FORM LIMMUî4î AïB×SIX VARIANT FORM ASH9ØEVEN VARIANT FORM IMIN3î Aï",
  "B×EIGHT VARIANT FORM USSUî3×NINE VARIANT FORM ILIMMUï3ï4ï A×TWO ASH TENUØHREE ASH TENU×FOUR ASH ",
  "TENUØIVE ASH TENU×SIX ASH TENU×ONE BAN2×TWO BAN2ØHREE BAN2×FOUR BAN2à VARIANT FORMØIVE BAN2à VAR",
  "IANT FORM×NIGIDAMINÝESH×ONE ESHE3×TWO ESHE3×ONE THIRD DISH×TWO THIRDS DISH×FIVE SIXTHS DISH×ONE ",
  "THIRD VARIANT FORM A×TWO THIRDS VARIANT FORM A×ONE EIGHTH ASHÛQUARTER ASHØLD ASSYRIAN ONE SIXTHè",
  "QUARTERØNE QUARTER GURÛHALF GUR×ELAMITE ONE THIRDßTWO THIRDSßFORTYàIFTY×FOUR U VARIANT FORMØIVE ",
  "U VARIANT FORM×SIX U VARIANT FORMØEVEN U VARIANT FORM×EIGHT U VARIANT FORM×NINE U VARIANT FORM#1",
  "2470ÊPUNCTUATION SIGN OLD ASSYRIAN WORD DIVIDERÛVERTICAL COLONÛDIAGONAL COLONäTRICOLONäQUADCOLON",
  "#12480ÊSIGN AB TIMES NUN TENUØSHU2ÐD TIMES ESH2ÏBAD TIMES DISH TENUÑHAR2 TIMES AB2ÜNIÜZAÐU OVER ",
  "BU TIMES NA2ÏDA TIMES TAK4ÑG TIMES KURÐIM TIMES IGIÙU U UÒ2 TIMES UDÐUG TIMES ANSHEÚSHÜ AT LEFTÙ",
  "DINÚUNÙERIN2ÙGAÚIÛR2 GUNUÛSHÙHAÚIÙIGI GUNUÙKASKALÚURÛSHU2ß PLUS KASKALÙLAK-020ÛMÜ TIMES KURÚUH P",
  "LUS GISHÙMASHÚESÚIÙNIÙPIÙSHEÚI GUNUÏE2 TIMES KURØPAPÐRIN2 XÐSH2 CROSSING ESH2ÐZEN SHESHIG TIMES ",
  "ASHâHIâIGI GUNUâLAäLâMEäSâSUÔTIMES SUÏGA2 TIMES BAHAR2ÙDIM GUNUÚUG TIMES IGI GUNUãKASKALÙERENÙGA",
  "ÛR PLUS DIâNEÙHA PLUS AÙKUSHU2 PLUS KASKALÙLAMÜ TIMES KURÚUHÙMUSHÙNEÛ PLUS E2áGIÙSHIMÙZIZ2ÑBA RO",
  "TATED NINETY DEGREESÐESHTIN TIMES UÐISH TIMES GISH CROSSING GISHÐU2 TIMES IGI GUNUÑD PLUS GISH T",
  "IMES TAK4ÏHA TENU GUNUÐI TIMES ASH OVER HI TIMES ASHÏKA TIMES BUØKAØU U UÙRÏLAGAB TIMES ZU OVER ",
  "ZUÑK-003Ô21Õ5Ô30Ô50Õ1Ô62Ô79 OVER LAK-079 GUNUÔ80Õ1 OVER LAK-081Ô92Ó130Ô42Ó210Õ9Ô20Õ5Õ8Ô38Ô65Õ6Ó3",
  "43Õ7Õ8Ô83Õ4Ô90Ó441Õ9Ö TIMES GUÝIGIÝPAP PLUS LU3æPAP PLUS LU3ÝU2 PLUS BAÔ50Õ7Ô70Ô83Ô90Õ2Õ3Õ5Ó550Ó",
  "608Ô17Ö TIMES ASHÝBADÝDUN3 GUNU GUNUÝKU3ÝLAÝTARÞEÝU2ÞDÞRUDAÔ36Ô48Ö TIMES DUBÝGAÝIGIà GUNUÝNIÝPAP ",
  "PLUS PAP PLUS LU3ÝSHESH PLUS KIÝUDÞRUDAÓ724Ô49ÐU2 GUNU TIMES ASHÓTIMES DISHÙHALÙPAPÜ PLUS PAP PL",
  "US LU3ÙTAK4ÏMI PLUS ZA7ÐUSH OVER MUSH TIMES GAäKAKÏNINDA2 TIMES DIM GUNUÜGISHÝULÜHIÜKESH2ÜLAK-05",
  "0ÜMASHÜPAP PLUS PAPÜUÝ PLUS UÝRUDAÏSAG GUNU TIMES HAÓTIMES ENÙSHE AT LEFTÙTAK4ÐHA6 TENUÑE OVER S",
  "HEÓPLUS HUB2ØNAM2ØSARÑU2 PLUS DUG TIMES NIÙE2 TIMES ANÐI TIMES TAK4ÏTAK4 PLUS SAGÐUM TIMES GAN2 ",
  "TENUÙTHREE DISHÏUR2 INVERTEDÓTIMES UDÑU TIMES DARA3ÙLAK-668ÚU3ÏZA7ÐU OVER ZU PLUS SARÑ5 TIMES TH",
  "REE DISH TENU#12F90ÁYPRO-MINOAN SIGN CM001Ö2Ö4Ö5Ö6Ö7Ö8Ö9Õ10Ö1Ö2×BÖ3Ö5Ö7Ö9Õ21Ö3Ö4Ö5Ö6Ö7Ö8Ö9Õ30Ö3Ö",
  "4Ö5Ö6Ö7Ö8Ö9Õ40Ö1Ö4Ö6Ö7Ö9Õ50Ö1Ö2Ö3Ö4Ö5Ö6Ö8Ö9Õ60Ö1Ö2Ö3Ö4Ö6Ö7Ö8Ö9Õ70Ö1Ö2Ö3Ö4Ö5×BÖ6Ö8Ö9Õ80Ö1Ö2Ö3Ö4Ö5",
  "Ö6Ö7Ö8Ö9Õ90Ö1Ö2Ö4Ö5Ö6Ö7Ö8Ö9Ô100Ö1Ö2Ö3Ö4Ö5Ö7Ö8Ö9Õ10Ö2Ö4Ô301Ö2#13000ÀEGYPTIAN HIEROGLYPH A001×2×3×",
  "4×5ØA×6ØAØB×7×8×9Ö10×1×2×3×4ØA×5×6×7ØA×8×9Ö20×1×2×3×4×5×6×7×8×9Ö30×1×2ØA×3×4×5×6×7×8×9Ö40ØA×1×2Ø",
  "A×3ØA×4×5ØA×6×7×8×9Ö50×1×2×3×4×5×6×7×8×9Ö60×1×2×3×4×5×6×7×8×9Ö70ÔB001×2×3×4×5ØA×6×7×8×9ÔC001×2ØA",
  "ØBØC×3×4×5×6×7×8×9Ö10ØA×1×2×3×4×5×6×7×8×9Ö20×1×2×3×4ÔD001×2×3×4×5×6×7×8ØA×9Ö10×1×2×3×4×5×6×7×8×9",
  "Ö20×1×2×3×4×5×6×7ØA×8×9Ö30×1ØA×2×3×4ØA×5×6×7×8×9Ö40×1×2×3×4×5×6ØA×7×8ØA×9Ö50ØAØBØCØDØEØFØGØHØI×1",
  "×2ØA×3×4ØA×5×6×7×8×9Ö60×1×2×3×4×5×6×7ØAØBØCØDØEØFØGØHÔE001×2×3×4×5×6×7×8ØA×9ØAÖ10×1×2×3×4×5×6ØA×",
  "7ØA×8×9Ö20ØA×1×2×3×4×5×6×7×8ØA×9Ö30×1×2×3×4ØA×6×7×8ÔF001ØA×2×3×4×5×6×7×8×9Ö10×1×2×3ØA×4×5×6×7×8×",
  "9Ö20×1ØA×2×3×4×5×6×7×8×9Ö30×1ØA×2×3×4×5×6×7ØA×8ØA×9Ö40×1×2×3×4×5ØA×6ØA×7ØA×8×9Ö50×1ØAØBØC×2×3ÔG0",
  "01×2×3×4×5×6ØA×7ØAØB×8×9Ö10×1ØA×2×3×4×5×6×7×8×9Ö20ØA×1×2×3×4×5×6ØA×7×8×9Ö30×1×2×3×4×5×6ØA×7ØA×8×",
  "9Ö40×1×2×3ØA×4×5ØA×6×7×8×9Ö50×1×2×3×4ÔH001×2×3×4×5×6ØA×7×8ÔI001×2×3×4×5ØA×6×7×8×9ØAÖ10ØA×1ØA×2×3",
  "×4×5ÔK001×2×3×4×5×6×7×8ÔL001×2ØA×3×4×5×6ØA×7×8ÔM001ØAØB×2×3ØA×4×5×6×7×8×9Ö10ØA×1×2ØAØBØCØDØEØFØG",
  "ØH×3×4×5ØA×6ØA×7ØA×8×9Ö20×1×2ØA×3×4ØA×5×6×7×8ØA×9Ö30×1ØA×2×3ØAØB×4×5×6×7×8×9Ö40ØA×1×2×3×4ÔN001×2",
  "×3×4×5×6×7×8×9Ö10×1×2×3×4×5×6×7×8ØAØB×9Ö20×1×2×3×4×5ØA×6×7×8×9Ö30×1×2×3ØA×4ØA×5ØA×6×7ØA×8×9Ö40×1",
  "×2ÕL001Ø2Ø3Ø4Ø5ÙAØ6Ø7Ø8Ø9×10Ø1Ø2Ø3Ø4Ø5Ø6Ø7ÙAØ8Ø9×20ÕU001Ø2Ø3Ø4Ø5Ø6Ø7Ø8Ø9×10ÙAØ1ÙAØ2Ø3Ø4Ø5Ø6Ø7Ø8Ù",
  "AØ9×20Ø1Ø2ÙAÔO001ØA×2×3×4×5ØA×6ØAØBØCØDØEØF×7×8×9Ö10ØAØBØC×1×2×3×4×5×6×7×8×9ØAÖ20ØA×1×2×3×4ØA×5Ø",
  "A×6×7×8×9ØAÖ30ØA×1×2×3ØA×4×5×6ØAØBØCØD×7×8×9Ö40×1×2×3×4×5×6×7×8×9Ö50ØAØB×1ÔP001ØA×2×3ØA×4×5×6×7×",
  "8×9Ö10×1ÔQ001×2×3×4×5×6×7ÔR001×2ØA×3ØAØB×4×5×6×7×8×9Ö10ØA×1×2×3×4×5×6ØA×7×8×9Ö20×1×2×3×4×5×6×7×8",
  "×9ÔS001×2ØA×3×4×5×6ØA×7×8×9Ö10×1×2×3×4ØAØB×5×6×7ØA×8×9Ö20×1×2×3×4×5×6ØAØB×7×8×9Ö30×1×2×3×4×5ØA×6",
  "×7×8×9Ö40×1×2×3×4×5×6ÔT001×2×3ØA×4×5×6×7ØA×8ØA×9ØAÖ10×1ØA×2×3×4×5×6ØA×7×8×9Ö20×1×2×3×4×5×6×7×8×9",
  "Ö30×1×2ØA×3ØA×4×5×6ÔU001×2×3×4×5×6ØAØB×7×8×9Ö10×1×2×3×4×5×6×7×8×9Ö20×1×2×3ØA×4×5×6×7×8×9ØAÖ30×1×",
  "2ØA×3×4×5×6×7×8×9Ö40×1×2ÔV001ØAØBØCØDØEØFØGØHØI×2ØA×3×4×5×6×7ØAØB×8×9Ö10×1ØAØBØC×2ØAØB×3×4×5×6×7",
  "×8×9Ö20ØAØBØCØDØEØFØGØHØIØJØKØL×1×2×3ØA×4×5×6×7×8ØA×9ØAÖ30ØA×1ØA×2×3ØA×4×5×6×7ØA×8×9Ö40ØAÔW001×2",
  "×3ØA×4×5×6×7×8×9ØAÖ10ØA×1×2×3×4ØA×5×6×7ØA×8ØA×9Ö20×1×2×3×4ØA×5ÔX001×2×3×4ØAØB×5×6ØA×7×8ØAÔY001ØA",
  "×2×3×4×5×6×7×8ÔZ001×2ØAØBØCØD×3ØAØB×4ØA×5ØA×6×7×8×9Ö10×1×2×3×4×5ØAØBØCØDØEØFØGØHØI×6ØAØBØCØDØEØF",
  "ØGØHÔAA001Ø2Ø3Ø4Ø5Ø6Ø7ÙAÙBØ8Ø9×10Ø1Ø2Ø3Ø4Ø5Ø6Ø7Ø8Ø9×20Ø1Ø2Ø3Ø4Ø5Ø6Ø7Ø8Ø9×30Ø1Ø2#13430ÔVERTICAL J",
  "OINERÔHORIZONTAL JOINERÔINSERT AT TOP STARTÞBOTTOM STARTÞTOP ENDÞBOTTOM ENDÔOVERLAY MIDDLEÔBEGIN ",
  "SEGMENTÔEND SEGMENT#14400ÀANATOLIAN HIEROGLYPH A001Ø2Ø3Ø4Ø5Ø6Ø7Ø8Ø9×10ÙAØ1Ø2Ø3Ø4Ø5Ø6Ø7Ø8Ø9×20Ø1Ø",
  "2Ø3Ø4Ø5Ø6ÙAØ7Ø8Ø9×30Ø1Ø2Ø3Ø4Ø5Ø6Ø7Ø8Ø9ÙA×40Ø1ÙAØ2Ø3Ø4Ø5ÙAØ6ÙAÙBØ7Ø8Ø9×50Ø1Ø2Ø3Ø4Ø5Ø6Ø7Ø8Ø9×60Ø1Ø",
  "2Ø3Ø4Ø5Ø6ÙAÙBÙCØ7Ø8Ø9×70Ø1Ø2Ø3Ø4Ø5Ø6Ø7Ø8Ø9×80Ø1Ø2Ø3Ø4Ø5Ø6Ø7Ø8Ø9×90Ø1Ø2Ø3Ø4Ø5Ø6Ø7ÙAØ8ÙAØ9Ö100ÙAØ1",
  "ÙAØ2ÙAØ3Ø4ÙAÙBÙCØ5ÙAÙBØ6Ø7ÙAÙBÙCØ8Ø9×10ÙAÙBØ1Ø2Ø3Ø4Ø5ÙAØ6Ø7Ø8Ø9×20Ø1Ø2Ø3Ø4Ø5ÙAØ6Ø7Ø8Ø9×30Ø1Ø2Ø3Ø",
  "4Ø5ÙAØ6Ø7Ø8Ø9×40Ø1Ø2Ø3Ø4Ø5Ø6Ø7Ø8Ø9×50Ø1Ø2Ø3Ø4Ø5Ø6Ø7Ø8Ø9×60Ø1Ø2Ø3Ø4Ø5Ø6Ø7Ø8Ø9×70Ø1Ø2Ø3Ø4Ø5Ø6Ø7Ø8Ø",
  "9×80Ø1Ø2Ø3Ø4Ø5Ø6Ø7Ø8Ø9×90Ø1Ø2Ø3Ø4Ø5Ø6Ø7Ø8Ø9Ö200Ø1Ø2ÙAÙBØ3Ø4Ø5Ø6Ø7ÙAØ8Ø9ÙA×10Ø1Ø2Ø3Ø4Ø5ÙAØ6ÙAØ7Ø8",
  "Ø9×20Ø1Ø2Ø3Ø4Ø5Ø6Ø7ÙAØ8Ø9×30Ø1Ø2Ø3Ø4Ø5Ø6Ø7Ø8Ø9×40Ø1Ø2Ø3Ø4Ø5Ø6Ø7Ø8Ø9×50Ø1Ø2Ø3Ø4Ø5Ø6Ø7Ø8Ø9×60Ø1Ø2Ø",
  "3Ø4Ø5Ø6Ø7ÙAØ8Ø9×70Ø1Ø2Ø3Ø4Ø5Ø6Ø7Ø8Ø9×80Ø1Ø2Ø3Ø4Ø5Ø6Ø7Ø8Ø9ÙA×90Ø1Ø2Ø3Ø4ÙAØ5Ø6Ø7Ø8Ø9ÙAÖ300Ø1Ø2Ø3Ø4",
  "Ø5Ø6Ø7Ø8Ø9ÙA×10Ø1Ø2Ø3Ø4Ø5Ø6Ø7Ø8Ø9×20Ø1Ø2Ø3Ø4Ø5Ø6Ø7Ø8Ø9ÙA×30Ø1Ø2AÙBÙCØ3Ø4Ø5Ø6ÙAÙBÙCØ7Ø8Ø9×40Ø1Ø2Ø",
  "3Ø4Ø5Ø6Ø7Ø8Ø9×50Ø1Ø2Ø3Ø4Ø5Ø6Ø7Ø8Ø9ÙA×60Ø1Ø2Ø3Ø4ÙAØ5Ø6Ø7Ø8ÙAØ9×70Ø1ÙAØ2Ø3Ø4Ø5Ø6Ø7Ø8Ø9×80Ø1ÙAØ2Ø3 ",
  "RA OR RIÙAØ4Ø5Ø6ÙAØ7Ø8Ø9×90Ø1Ø2Ø3 EIGHTØ4Ø5Ø6Ø7Ø8Ø9Ö400Ø1Ø2Ø3Ø4Ø5Ø6Ø7Ø8Ø9×10 BEGIN LOGOGRAM MARK",
  "ÙA END LOGOGRAM MARKØ1Ø2Ø3Ø4Ø5Ø6Ø7Ø8Ø9×20Ø1Ø2Ø3Ø4Ø5Ø6Ø7Ø8Ø9×30Ø1Ø2Ø3Ø4Ø5Ø6Ø7Ø8Ø9×40Ø1Ø2Ø3Ø4Ø5Ø6Ø",
  "7Ø8Ø9×50ÙAØ1Ø2Ø3Ø4Ø5Ø6Ø7ÙAØ8Ø9×60Ø1Ø2Ø3Ø4Ø5Ø6Ø7Ø8Ø9×70Ø1Ø2Ø3Ø4Ø5Ø6Ø7Ø8Ø9×80Ø1Ø2Ø3Ø4Ø5Ø6Ø7Ø8Ø9×90",
  "Ø1Ø2Ø3Ø4Ø5Ø6Ø7Ö501Ø2Ø3Ø4Ø5Ø6Ø7Ø8Ø9×10Ø1Ø2Ø3Ø4Ø5Ø6Ø7Ø8Ø9×20Ø1Ø2Ø3Ø4Ø5Ø6Ø7Ø8Ø9×30#16800ÀBAMUM LETT",
  "ER PHASE-A NGKUE MFONÕGBIEE FONÕPON MFON PIPAEMGBIEEäBAÕNAA MFONÕSHUENSHUETÕTITA MFONÕNZA MFONÕS",
  "HINDA PA NJIÕPON PA NJI PIPAEMGBIEEæBAÕMAEMBGBIEEÕTU MAEMBAÕNGANGUÕMAEMVEUX×NSUAEÖVEUAENGAMÕSEUN",
  "YAMÕNTOQPENÕKEUKEUTNDAÕNKINDIÕSUUÕNGKUENZEUMÕLAPAQÖET KUTÕNTAP MFAAÕMAEKEUPÕPASHAEÕGHEUAERAEÕPAM",
  "SHAEÕMON NGGEUAETÕNZUN MEUTÕU YUQ NAEÕGHEUAEGHEUAEÕNTAP NTAAÕSISAÕMGBASAÖEUNJOMNDEUQÖOOMPUQÕKAFA",
  "ÕPA LEERAEWAÕNDA LEERAEWAÕPETÕMAEMKPENÕNIKAÕPUPÕTUAEPÕLUAEPÕSONJAMÕTEUTEUWENÕMAENYIÕKETÕNDAANGGE",
  "UAETÕKUOQÕMOOMEUTÕSHUMÕLOMMAEÕFIRIÕROMÕKPOQÕSOQÕMAP PIEETÕSHIRAEÕNTAPÕSHOQ NSHUT YUMÕNYIT MONGKE",
  "UAEQÕPAARAEÕNKAARAEÕUNKNOWNÕNGGENÕMAESIÕNJAMÕMBANYIÕNYETÕTEUAENÕSOTÕPAAMÕNSHIEEÕMAEMÕNYIÕKAQÕNSH",
  "AÕVEEÕLUÕNENÖAQÕMBAQÓB NSHUETÕTU MAEMGBIEEÕSIEEÖET TUÕLOM NTEUMÕMBA MAELEEÕKIEEMÕYEURAEÕMBAARAEÕ",
  "KAMÕPEESHIÕYAFU LEERAEWAÕLAM NSHUT NYAMÕNTIEE SHEUOQÖDU NJAAÕGHEUGHEUAEMÕPITÕTU NSIEEÕSHET NJAQØ",
  "UAEQTUÕMFON TEUAEQÖBIT MBAAKETÕNYI NTEUMÕKEUPUQÕGHEUGHENÕKEUYEUXÕLAANAEÕPARUMÕVEUMÕNGKINDI MVOP×",
  "GEU MBUÕWUAETÕSAKEUAEÕTAAMÕMEUQÕNGGUOQÛ LARGEÕMFIYAQÕSUEÕMBEURIÖONTIEENÕNYAEMAEÕPUNGAAMÕMEUT NGG",
  "EETÕFEUXÕMBUOQÕFEEÕKEUAEMÕMA NJEUAENAÚUQAÕLETÕNGGAAMÖSENÕMAÕKIQÕNGOMÓC NGKUE MAEMBAÖZAÕYUMÕWANGK",
  "UOQÕNGGENÖDEUAEREEÖGKAQÕGHARAEÕMBEEKEETÕGBAYIÕNYIR MKPARAQ MEUNÖTU MBITÕMBEUMÕPIRIEENÕNDOMBUÕMBA",
  "A CABBAGE-TREEÕKEUSHEUAEPÕGHAPÕKEUKAQÕYU MUOMAEÕNZEUMÕMBUEÕNSEUAENÕMBITÕYEUQÕKPARAQÖAAÕSEUXÕNDID",
  "AÕTAASHAEÕNJUEQÕTITA YUEÕSUAETÕNGGUAEN NYAMÕVEUXÕNANSANAQÕMA KEUAERIÕNTAAÖGGUONÕLAPÕMBIRIEENÖGBA",
  "SAQÕNTEUNGBAÕTEUTEUXÕNGGUMÕFUEÕNDEUTÖSA×HAQÕBUNGÕVEUAEPENÕMBERAEÕRUÕNJAEMÕLAMÕTITUAEPÕNSUOT NGOM",
  "ÖJEEEEÕKETÕNGGUÕMAESIÖBUAEMÕLUÕKUTÕNJAMÖGOMÕWUPÕNGGUEETÖSOMÖTENÕKUOP NKAARAEÕNSUNÖDAMÕMA NSIEEÕY",
  "AAÕNDAPÕSHUEQÖETFONÕMBIÖAEMBAÖBANYIÕKEUSEUXÕMBEUXÕKEUMÕMBAA PICKETÕYUWOQÕNJEUXÕMIEEÖUAEÕSHIQÕKEN ",
  "LAWÙFATIGUEÕNGAQÖAQÕLIQÕPINÖENÕTETÓD MBUOÕWAPÕNJIÕMFONÕNJIEEÕLIEEÕNJEUTÖSHEEÖGGAAMAEÖYAMÕWUAENÕN",
  "GKUNÕSHEEÕNGKAPÕKEUAETMEUNÕTEUTÕSHEUAEÕNJAPÕSUEÕKETÕYAEMMAEÕKUOMÕSAPÕMFEUTÕNDEUXÕMALEERIÖEUTÕSEU",
  "AEQÕYENÕNJEUAEMÕKEUOT MBUAEÕNGKEURIÕTUÕGHAAÕNGKYEEÕFEUFEUAETÕNDEEÕMGBOFUMÕLEUAEPÕNDONÕMONIÖGBEUN",
  "ÕPUUTÕMGBIEEÖFOÕLUMÕNSIEEPÕMBAAÕKWAETÕNYETÕTEUAENÕSOTÕYUWOQÕKEUMÕRAEMÕTEEEEÕNGKEUAEQÕMFEUAEÕNSIE",
  "ETÕKEUPÕPIPÖEUTAEÕNYUEÕLETÕNGGAAMÕMFIEEÕNGGWAENÕYUOMÕPAPÕYUOPÕNDAMÖTEUMÕSUAEÕKUNÕNGGEUX×KIEEÕTUO",
  "TÕMEUNÕKUQÕNSUMÕTEUNÕMAENJETÕNGGAPÕLEUMÕNGGUOMÖSHUTÖJUEQÕGHEUAEÕKUÕREN OLDÕTAEÖOQÕNYIÕRIIÕLEEEEÕ",
  "MEEEEÖÕSUUÕMUÕSHII×EUXÕKYEEÕNUÕSHUÕNTEEÕPEEÕNIÕSHOQÕPUQÕMVOPÕLOQÕREN MUCHÕTIÕNTUUÕMBAA SEVENÕSAQ",
  "ÕFAAÓE NDAPÕTOONÕMBEUMÕLAPÕVOMÕLOONÕPAAÕSOMÕRAQÕNSHUOPÖDUNÕPUAEÕTAMÕNGKAÕKPEUXÕWUOÕSEEÕNGGEUAETÕ",
  "PAAMÕTOOÕKUOPÕLOMÕNSHIEEÖGOPÕMAEMÕNGKEUX×OQÖSHUEÕRIMGBAÕNJEUXÕPEEMÕSAAÕNGGURAEÕMGBAÕGHEUXÕNGKEUA",
  "EMÖJAEMLIÕMAPÕLOOTÕNGGEEEEÖDIQÕTAEN NTEUMÕSETÕPUMÕNDAA SOFTNESSÖGGUAESHAE NYAMÕYIEEÕGHEUNÕTUAEÕY",
  "EUAEÕPOÕTUMAEÕKEUAEÕSUAENÕTEUAEQÕVEUAEÕWEUXÕLAAMÕPUÕTAAQÕGHAAMAEÕNGEUREUTÕSHEUAEQÕMGBENÖBEEÕNZAQ",
  "ÖKOMÕGBETÕTUMÕKUETÕYAPÕNYI CLEAVERÕYITÕMFEUQÕNDIAQÕPIEEQÕYUEQÕLEUAEMÕFUEÕGBEUXÕNGKUPÕKETÕMAEÕNGK",
  "AAMIÕGHETÕFAÕNTUMÕPEUTÕYEUMÕNGGEUAEÖYI BETWEENÖZUQÕPOONÕMIEEÕFUETÕNAEÕMUAEÕGHEUAEÕFU IÕMVIÕPUAQÕ",
  "NGKUMÕKUTÕPIETÕNTAPÕYEUAETÕNGGUPÕPA PEOPLEÕFU CALLÖOMÕNJEEÕAÕTOQÕOÕIÕLAQÕPA PLURALÕTAA×QÕNDAA MY ",
  "HOUSEÕSHIQÕYEUXÕNGUAEÕYUAENÖOQ SWIMMINGÙCOVERÖUQ×NÕKEUXÕPEUXÕNJEE EPOCHÕPUEÕWUEÕFEEÕVEEÕLUÕMIÕRE",
  "UXÖAEÕNGUAET×AÕSHOØQÕFU REMEDYÕNAÕPIÕLOQÕKOÕMENÖA×QÕTEUÕKIÕMONÕTENÕFAQÕGHOMÓF KAÕUÕKUÕEEÕREEÕTAE",
  "ÕNYIÕLAÕRII×EEÕMEEEEÕTAAÕNDAAÖJAEMÕMÕSUUÖHIIÖIÖEUXÕKYEEÖETÕNUAE×ÖJUAEÕYOQÕSHUÕYAÕNSHAÕPEUXÕNTEEÕ",
  "WUEÕPEEÕRUÕNIÕREUXÕKENÕNGKWAEN×GAÕSHOÕPUAEÕFOMÕWAÕLIÖOQÕKOÕMBENÕRENÕMAÖOÖBAAÕTETÕKPAÕSAMBAÕVUEQ#",
  "16A40ÀMRO LETTER TAËNGIËYOËMIMËBAËDAËAËPHIËKHAIËHAOËDAIËCHUËKEAAEËOLËMAEMËNINËPAËOOÌËROËSHIËTHEA",
  "ËEAËWAËEËKOËLANÍËHAIËRIËTEK#16A60ÄDIGIT ZEROÊONEÊTWOËHREEÊFOURËIVEÊSIXËEVENÊEIGHTÊNINE#16A6EÅAND",
  "AÅOUBLE DANDAÀTANGSA LETTER OZÏCÏQÏXÎAZÏCÏQÏXÎVZÏCÏQÏXÎEZÏCÏQÏXÎIZÏCÏQÏXÎUZÏCÏQÏXÎAWZÐCÐQÐXÎUIZÐ",
  "CÐQÐXÎFINAL NGÎLONG UEXÎSHORT UEZÔAWXÎUECÐZÐQÐXÏIUZÑCÑQÑXÎMZÏCÏQÏXÎKAÏHAÎGAÎNGAÎSAÎYAÎWAÎPAÎNYAÎ",
  "PHAÎBAÎMAÎNAÎHAÎLAÎHTAÎTAÎDAÎRAÎNHAÎSHAÎCAÎTSAÎGHAÎHTTAÎTHAÎXAÎFAÎDHAÎCHAÎZA#16AC0ÇDIGIT ZEROÍON",
  "EÍTWOÎHREEÍFOURÎIVEÍSIXÎEVENÍEIGHTÍNINE#16AD0ÀBASSA VAH LETTER ENNIÑKAÑSEÑFAÑMBEÑYIEÑGAHÑDHIIÑKP",
  "AHÑJOÑHWAHÑWAÑZOÑGBUÑDOÑCEÑUWUÑTOÑBAÑVUÑYEINÑPAÑWADDAÑAÑOÒOÑUÑEEÒÑI#16AF0ÊCOMBINING HIGH TONEÔLO",
  "W TONEÔMID TONEÔLOW-MID TONEÔHIGH-LOW TONEÊFULL STOP#16B00ÀPAHAWH HMONG VOWEL KEEBÖVÔIBÕVÔAUBÖVÔ",
  "UBÕVÔEBÕVÔAIBÖVÔOOBÖVÔAWBÖVÔUABÖVÔOBÕVÔIABÖVÔABÕVÔWBÕVÔAABÖVÍCONSONANT VAU×NTSAU×LAU×HAU×NLAU×RA",
  "U×NKAU×QHAU×YAU×HLAU×MAU×CHAU×NCHAU×HNAU×PLHAU×NTHAUØAU×AU×XAU×CAUÍMARK CIM TUBÖSOÖKES×HAVÖSUAMÖ",
  "HOMÖTAUMÍSIGN VOS THOM×SHAB CEEBÒCIM CHEEMÒVOS THIABÖFEEMÒXYEEM NTXIVØRHOØTOVØFAIBÒVOS SEEVÒMEEJ ",
  "SUABÒVOS NRUAÒIB YAMÒXAUSÒCIM TSOV ROG#16B50ÍDIGIT ZEROÓONEÓTWOÔHREEÓFOURÔIVEÓSIXÔEVENÓEIGHTÓNIN",
  "E#16B5BÍNUMBER TENSÔHUNDREDSÔTEN THOUSANDSÔMILLIONSÔHUNDRED MILLIONSÔTEN BILLIONSÕRILLIONS#16B63",
  "ÍSIGN VOS LUBÒXYOOÒHLIÒTHIRD-STAGE HLIÒZWJ THAJÒHNUBÒNQIGÒXIABÒNTUJÒAVÒTXHEEJ CEEVÒMEEJ TSEEBÒTA",
  "UÒLOSÒMUSÒCIM HAIS LUS NTOG NTOGÖCUAM TSHOOJÖTXWVÚ CHWVÖPUB DAWBÖNRES TOS#16B7DÍCLAN SIGN TSHEEJ",
  "×YEEG×LISØAUJ×XYOOJ×KOO×HAWJ×MUAS×THOJØSAB×PHAB×KHAB×HAM×VAJ×FAJ×YAJ×TSWB×KWM×VWJ#16E40ÀMEDEFAID",
  "RIN CAPITAL LETTER MÛSÛVÛWÛATIUÛZÛKPÛPÛTÛGÛFÛIÛKÛAÛJÛEÛBÛCÛUÛYUÛLÛQÛHPÛNYÛXÛDÛOEÛNÛRÛOÛAIÛYÌSMAL",
  "L LETTER MÙSÙVÙWÙATIUÙZÙKPÙPÙTÙGÙFÙIÙKÙAÙJÙEÙBÙCÙUÙYUÙLÙQÙHPÙNYÙXÙDÙOEÙNÙRÙOÙAIÙYÌDIGIT ZEROÒONE",
  "ÒTWOÓHREEÒFOURÓIVEÒSIXÓEVENÒEIGHTÒNINEÌNUMBER TENÓELEVENÓTWELVEÔHIRTEENÓFOURTEENÔIFTEENÓSIXTEENÔ",
  "EVENTEENÓEIGHTEENÓNINETEENÌDIGIT ONE ALTERNATE FORMÒTWO ALTERNATE FORMÓHREE ALTERNATE FORMÌCOMMA",
  "ÌFULL STOPÌSYMBOL AIVAÌEXCLAMATION OH#16F00ÁIAO LETTER PAÌBAÌYI PAÌPLAÌMAÍHAÌARCHAIC MAÌFAÌVAÍFA",
  "ÌTAÌDAÌYI TTAÐAÌTTAÌDDAÌNAÍHAÌYI NNAÌARCHAIC NAÌNNAÎHAÌLAÍYAÍHAÎYAÌTLHAÌDLHAÌTLHYAÌDLHYAÌKAÌGAÌY",
  "I KAÌQAÍGAÌNGAÎHAÌARCHAIC NGAÌHAÌXAÌGHAÎHAÌTSSAÌDZZAÌNYAÎHAÌTSHAÌDZHAÌYI TSHAÏDZHAÌREFORMED TSHA",
  "ÌSHAÍSAÌZHAÍSHAÌTSAÌDZAÌYI TSAÌSAÌZAÍSAÍZAÎSAÌARCHAIC ZZAÌZZYAÎSYAÌWAÌAHÌHHAÌBRIÌSYIÌDZYIÌTEÍSEÌ",
  "RTE#16F4FÅSIGN CONSONANT MODIFIER BARÅLETTER NASALIZATIONÅSIGN ASPIRATIONÊREFORMED VOICINGÓASPIR",
  "ATIONÅVOWEL SIGN AÑAÑHHÑNÒGÐOÑOÐWOÑÐEÑNÒGÐOEYÐIÑAÒNÓGÑOÑEÑIÑUÑNGÐUÑAÒNÓGÑUÑEIÑNGÐYÑIÐAEÒEÐERRÐRO",
  "UNDED ERRÐERÐROUNDED ERÐAIÐEIÐAUÐOUÐNÑGÐUOGÐYUIÐOGÑERÐVWÐIGÐEAÐIONGÐUI#16F8FÅTONE RIGHTÊTOP RIGH",
  "TÊABOVEÊBELOWÅLETTER TONE-2Ñ3Ñ4Ñ5Ñ6Ñ7Ñ8ÌREFORMED TONE-1Ú2Ú4Ú5Ú6Ú8#16FE0ÀTANGUT ITERATION MARKÀNU",
  "SHU ITERATION MARKÀOLD CHINESE HOOK MARKÌITERATION MARKÀKHITAN SMALL SCRIPT FILLER#16FF0ÀVIETNAM",
  "ESE ALTERNATE READING MARK CAâNHAY#18800ÀTANGUT COMPONENT-001Ó2Ó3Ó4Ó5Ó6Ó7Ó8Ó9Ò10Ó1Ó2Ó3Ó4Ó5Ó6Ó7Ó8",
  "Ó9Ò20Ó1Ó2Ó3Ó4Ó5Ó6Ó7Ó8Ó9Ò30Ó1Ó2Ó3Ó4Ó5Ó6Ó7Ó8Ó9Ò40Ó1Ó2Ó3Ó4Ó5Ó6Ó7Ó8Ó9Ò50Ó1Ó2Ó3Ó4Ó5Ó6Ó7Ó8Ó9Ò60Ó1Ó2Ó3Ó",
  "4Ó5Ó6Ó7Ó8Ó9Ò70Ó1Ó2Ó3Ó4Ó5Ó6Ó7Ó8Ó9Ò80Ó1Ó2Ó3Ó4Ó5Ó6Ó7Ó8Ó9Ò90Ó1Ó2Ó3Ó4Ó5Ó6Ó7Ó8Ó9Ñ100Ó1Ó2Ó3Ó4Ó5Ó6Ó7Ó8Ó9",
  "Ò10Ó1Ó2Ó3Ó4Ó5Ó6Ó7Ó8Ó9Ò20Ó1Ó2Ó3Ó4Ó5Ó6Ó7Ó8Ó9Ò30Ó1Ó2Ó3Ó4Ó5Ó6Ó7Ó8Ó9Ò40Ó1Ó2Ó3Ó4Ó5Ó6Ó7Ó8Ó9Ò50Ó1Ó2Ó3Ó4Ó",
  "5Ó6Ó7Ó8Ó9Ò60Ó1Ó2Ó3Ó4Ó5Ó6Ó7Ó8Ó9Ò70Ó1Ó2Ó3Ó4Ó5Ó6Ó7Ó8Ó9Ò80Ó1Ó2Ó3Ó4Ó5Ó6Ó7Ó8Ó9Ò90Ó1Ó2Ó3Ó4Ó5Ó6Ó7Ó8Ó9Ñ20",
  "0Ó1Ó2Ó3Ó4Ó5Ó6Ó7Ó8Ó9Ò10Ó1Ó2Ó3Ó4Ó5Ó6Ó7Ó8Ó9Ò20Ó1Ó2Ó3Ó4Ó5Ó6Ó7Ó8Ó9Ò30Ó1Ó2Ó3Ó4Ó5Ó6Ó7Ó8Ó9Ò40Ó1Ó2Ó3Ó4Ó5Ó",
  "6Ó7Ó8Ó9Ò50Ó1Ó2Ó3Ó4Ó5Ó6Ó7Ó8Ó9Ò60Ó1Ó2Ó3Ó4Ó5Ó6Ó7Ó8Ó9Ò70Ó1Ó2Ó3Ó4Ó5Ó6Ó7Ó8Ó9Ò80Ó1Ó2Ó3Ó4Ó5Ó6Ó7Ó8Ó9Ò90Ó1",
  "Ó2Ó3Ó4Ó5Ó6Ó7Ó8Ó9Ñ300Ó1Ó2Ó3Ó4Ó5Ó6Ó7Ó8Ó9Ò10Ó1Ó2Ó3Ó4Ó5Ó6Ó7Ó8Ó9Ò20Ó1Ó2Ó3Ó4Ó5Ó6Ó7Ó8Ó9Ò30Ó1Ó2Ó3Ó4Ó5Ó6Ó",
  "7Ó8Ó9Ò40Ó1Ó2Ó3Ó4Ó5Ó6Ó7Ó8Ó9Ò50Ó1Ó2Ó3Ó4Ó5Ó6Ó7Ó8Ó9Ò60Ó1Ó2Ó3Ó4Ó5Ó6Ó7Ó8Ó9Ò70Ó1Ó2Ó3Ó4Ó5Ó6Ó7Ó8Ó9Ò80Ó1Ó2",
  "Ó3Ó4Ó5Ó6Ó7Ó8Ó9Ò90Ó1Ó2Ó3Ó4Ó5Ó6Ó7Ó8Ó9Ñ400Ó1Ó2Ó3Ó4Ó5Ó6Ó7Ó8Ó9Ò10Ó1Ó2Ó3Ó4Ó5Ó6Ó7Ó8Ó9Ò20Ó1Ó2Ó3Ó4Ó5Ó6Ó7Ó",
  "8Ó9Ò30Ó1Ó2Ó3Ó4Ó5Ó6Ó7Ó8Ó9Ò40Ó1Ó2Ó3Ó4Ó5Ó6Ó7Ó8Ó9Ò50Ó1Ó2Ó3Ó4Ó5Ó6Ó7Ó8Ó9Ò60Ó1Ó2Ó3Ó4Ó5Ó6Ó7Ó8Ó9Ò70Ó1Ó2Ó3",
  "Ó4Ó5Ó6Ó7Ó8Ó9Ò80Ó1Ó2Ó3Ó4Ó5Ó6Ó7Ó8Ó9Ò90Ó1Ó2Ó3Ó4Ó5Ó6Ó7Ó8Ó9Ñ500Ó1Ó2Ó3Ó4Ó5Ó6Ó7Ó8Ó9Ò10Ó1Ó2Ó3Ó4Ó5Ó6Ó7Ó8Ó",
  "9Ò20Ó1Ó2Ó3Ó4Ó5Ó6Ó7Ó8Ó9Ò30Ó1Ó2Ó3Ó4Ó5Ó6Ó7Ó8Ó9Ò40Ó1Ó2Ó3Ó4Ó5Ó6Ó7Ó8Ó9Ò50Ó1Ó2Ó3Ó4Ó5Ó6Ó7Ó8Ó9Ò60Ó1Ó2Ó3Ó4",
  "Ó5Ó6Ó7Ó8Ó9Ò70Ó1Ó2Ó3Ó4Ó5Ó6Ó7Ó8Ó9Ò80Ó1Ó2Ó3Ó4Ó5Ó6Ó7Ó8Ó9Ò90Ó1Ó2Ó3Ó4Ó5Ó6Ó7Ó8Ó9Ñ600Ó1Ó2Ó3Ó4Ó5Ó6Ó7Ó8Ó9Ò",
  "10Ó1Ó2Ó3Ó4Ó5Ó6Ó7Ó8Ó9Ò20Ó1Ó2Ó3Ó4Ó5Ó6Ó7Ó8Ó9Ò30Ó1Ó2Ó3Ó4Ó5Ó6Ó7Ó8Ó9Ò40Ó1Ó2Ó3Ó4Ó5Ó6Ó7Ó8Ó9Ò50Ó1Ó2Ó3Ó4Ó5",
  "Ó6Ó7Ó8Ó9Ò60Ó1Ó2Ó3Ó4Ó5Ó6Ó7Ó8Ó9Ò70Ó1Ó2Ó3Ó4Ó5Ó6Ó7Ó8Ó9Ò80Ó1Ó2Ó3Ó4Ó5Ó6Ó7Ó8Ó9Ò90Ó1Ó2Ó3Ó4Ó5Ó6Ó7Ó8Ó9Ñ700",
  "Ó1Ó2Ó3Ó4Ó5Ó6Ó7Ó8Ó9Ò10Ó1Ó2Ó3Ó4Ó5Ó6Ó7Ó8Ó9Ò20Ó1Ó2Ó3Ó4Ó5Ó6Ó7Ó8Ó9Ò30Ó1Ó2Ó3Ó4Ó5Ó6Ó7Ó8Ó9Ò40Ó1Ó2Ó3Ó4Ó5Ó6",
  "Ó7Ó8Ó9Ò50Ó1Ó2Ó3Ó4Ó5Ó6Ó7Ó8Ó9Ò60Ó1Ó2Ó3Ó4Ó5Ó6Ó7Ó8ÀKHITAN SMALL SCRIPT CHARACTER-18B00â1â2â3â4â5â6â7",
  "â8â9âAâBâCâDâEâFá10â1â2â3â4â5â6â7â8â9âAâBâCâDâEâFá20â1â2â3â4â5â6â7â8â9âAâBâCâDâEâFá30â1â2â3â4â5â",
  "6â7â8â9âAâBâCâDâEâFá40â1â2â3â4â5â6â7â8â9âAâBâCâDâEâFá50â1â2â3â4â5â6â7â8â9âAâBâCâDâEâFá60â1â2â3â4",
  "â5â6â7â8â9âAâBâCâDâEâFá70â1â2â3â4â5â6â7â8â9âAâBâCâDâEâFá80â1â2â3â4â5â6â7â8â9âAâBâCâDâEâFá90â1â2â",
  "3â4â5â6â7â8â9âAâBâCâDâEâFáA0â1â2â3â4â5â6â7â8â9âAâBâCâDâEâFáB0â1â2â3â4â5â6â7â8â9âAâBâCâDâEâFáC0â1",
  "â2â3â4â5â6â7â8â9âAâBâCâDâEâFáD0â1â2â3â4â5â6â7â8â9âAâBâCâDâEâFáE0â1â2â3â4â5â6â7â8â9âAâBâCâDâEâFáF",
  "0â1â2â3â4â5â6â7â8â9âAâBâCâDâEâFàC00â1â2â3â4â5â6â7â8â9âAâBâCâDâEâFá10â1â2â3â4â5â6â7â8â9âAâBâCâDâE",
  "âFá20â1â2â3â4â5â6â7â8â9âAâBâCâDâEâFá30â1â2â3â4â5â6â7â8â9âAâBâCâDâEâFá40â1â2â3â4â5â6â7â8â9âAâBâCâ",
  "DâEâFá50â1â2â3â4â5â6â7â8â9âAâBâCâDâEâFá60â1â2â3â4â5â6â7â8â9âAâBâCâDâEâFá70â1â2â3â4â5â6â7â8â9âAâB",
  "âCâDâEâFá80â1â2â3â4â5â6â7â8â9âAâBâCâDâEâFá90â1â2â3â4â5â6â7â8â9âAâBâCâDâEâFáA0â1â2â3â4â5â6â7â8â9â",
  "AâBâCâDâEâFáB0â1â2â3â4â5â6â7â8â9âAâBâCâDâEâFáC0â1â2â3â4â5â6â7â8â9âAâBâCâDâEâFáD0â1â2â3â4â5#1AFF0",
  "ÁATAKANA LETTER MINNAN TONE-2Ü3Ü4Ü5#1AFF5Ü7Ü8×NASALIZED TONE-1æ2æ3æ4æ5#1AFFDæ7æ8#1B000ÐARCHAIC E",
  "ÀHIRAGANA LETTER ARCHAIC YEÁENTAIGANA LETTER A-1Ô2Ô3ÔWOÒI-1Ô2Ô3Ô4ÒU-1Ô2Ô3Ô4Ô5ÒE-2Ô3Ô4Ô5Ô6ÒO-1Ô2Ô",
  "3ÒKA-1Õ2Õ3Õ4Õ5Õ6Õ7Õ8Õ9Õ10Ö1ÕKEÓI-1Õ2Õ3Õ4Õ5Õ6Õ7Õ8ÓU-1Õ2Õ3Õ4Õ5Õ6Õ7ÓE-1Õ2Õ3Õ4Õ5Õ6ÓO-1Õ2Õ3ÕKIÒSA-1Õ2",
  "Õ3Õ4Õ5Õ6Õ7Õ8ÓI-1Õ2Õ3Õ4Õ5Õ6ÓU-1Õ2Õ3Õ4Õ5Õ6Õ7Õ8ÓE-1Õ2Õ3Õ4Õ5ÓO-1Õ2Õ3Õ4Õ5Õ6Õ7ÒTA-1Õ2Õ3Õ4ÓI-1Õ2Õ3Õ4Õ5Õ",
  "6Õ7ÓU-1Õ2Õ3Õ4ÕTOÓE-1Õ2Õ3Õ4Õ5Õ6Õ7Õ8Õ9ÓO-1Õ2Õ3Õ4Õ5Õ6ÕRAÒNA-1Õ2Õ3Õ4Õ5Õ6Õ7Õ8Õ9ÓI-1Õ2Õ3Õ4Õ5Õ6Õ7ÕTEÓU-",
  "1Õ2Õ3ÓE-1Õ2Õ3Õ4Õ5Õ6ÕKOÓO-1Õ2Õ3Õ4Õ5ÒHA-1Õ2Õ3Õ4Õ5Õ6Õ7Õ8Õ9Õ10Ö1ÓI-1Õ2Õ3Õ4Õ5Õ6Õ7ÓU-1Õ2Õ3ÓE-1Õ2Õ3Õ4Õ5",
  "Õ6Õ7ÓO-1Õ2Õ3Õ4Õ5Õ6Õ7Õ8ÒMA-1Õ2Õ3Õ4Õ5Õ6Õ7ÓI-1Õ2Õ3Õ4Õ5Õ6Õ7ÓU-1Õ2Õ3Õ4ÓE-1Õ2ÕMAÓO-1Õ2Õ3Õ4Õ5Õ6ÒYA-1Õ2Õ",
  "3Õ4Õ5ÕYOÓU-1Õ2Õ3Õ4ÓO-1Õ2Õ3Õ4Õ5Õ6ÒRA-1Õ2Õ3Õ4ÓI-1Õ2Õ3Õ4Õ5Õ6Õ7ÓU-1Õ2Õ3Õ4Õ5Õ6ÓE-1Õ2Õ3Õ4ÓO-1Õ2Õ3Õ4Õ5Õ",
  "6ÒWA-1Õ2Õ3Õ4Õ5ÓI-1Õ2Õ3Õ4Õ5ÓE-1Õ2Õ3Õ4ÓO-1Õ2Õ3Õ4Õ5Õ6Õ7ÒN-MU-MO-1Ú2ÁIRAGANA LETTER ARCHAIC WUÀKATAK",
  "ANA LETTER ARCHAIC YIÙEØWU#1B150ÀHIRAGANA LETTER SMALL WI×E×O#1B164ÀKATAKANA LETTER SMALL WI×E×O",
  "ÖN#1B170ÀNUSHU CHARACTER-1B170Ô1Ô2Ô3Ô4Ô5Ô6Ô7Ô8Ô9ÔAÔBÔCÔDÔEÔFÓ80Ô1Ô2Ô3Ô4Ô5Ô6Ô7Ô8Ô9ÔAÔBÔCÔDÔEÔFÓ90",
  "Ô1Ô2Ô3Ô4Ô5Ô6Ô7Ô8Ô9ÔAÔBÔCÔDÔEÔFÓA0Ô1Ô2Ô3Ô4Ô5Ô6Ô7Ô8Ô9ÔAÔBÔCÔDÔEÔFÓB0Ô1Ô2Ô3Ô4Ô5Ô6Ô7Ô8Ô9ÔAÔBÔCÔDÔEÔF",
  "ÓC0Ô1Ô2Ô3Ô4Ô5Ô6Ô7Ô8Ô9ÔAÔBÔCÔDÔEÔFÓD0Ô1Ô2Ô3Ô4Ô5Ô6Ô7Ô8Ô9ÔAÔBÔCÔDÔEÔFÓE0Ô1Ô2Ô3Ô4Ô5Ô6Ô7Ô8Ô9ÔAÔBÔCÔDÔ",
  "EÔFÓF0Ô1Ô2Ô3Ô4Ô5Ô6Ô7Ô8Ô9ÔAÔBÔCÔDÔEÔFÒ200Ô1Ô2Ô3Ô4Ô5Ô6Ô7Ô8Ô9ÔAÔBÔCÔDÔEÔFÓ10Ô1Ô2Ô3Ô4Ô5Ô6Ô7Ô8Ô9ÔAÔBÔ",
  "CÔDÔEÔFÓ20Ô1Ô2Ô3Ô4Ô5Ô6Ô7Ô8Ô9ÔAÔBÔCÔDÔEÔFÓ30Ô1Ô2Ô3Ô4Ô5Ô6Ô7Ô8Ô9ÔAÔBÔCÔDÔEÔFÓ40Ô1Ô2Ô3Ô4Ô5Ô6Ô7Ô8Ô9ÔA",
  "ÔBÔCÔDÔEÔFÓ50Ô1Ô2Ô3Ô4Ô5Ô6Ô7Ô8Ô9ÔAÔBÔCÔDÔEÔFÓ60Ô1Ô2Ô3Ô4Ô5Ô6Ô7Ô8Ô9ÔAÔBÔCÔDÔEÔFÓ70Ô1Ô2Ô3Ô4Ô5Ô6Ô7Ô8Ô",
  "9ÔAÔBÔCÔDÔEÔFÓ80Ô1Ô2Ô3Ô4Ô5Ô6Ô7Ô8Ô9ÔAÔBÔCÔDÔEÔFÓ90Ô1Ô2Ô3Ô4Ô5Ô6Ô7Ô8Ô9ÔAÔBÔCÔDÔEÔFÓA0Ô1Ô2Ô3Ô4Ô5Ô6Ô7",
  "Ô8Ô9ÔAÔBÔCÔDÔEÔFÓB0Ô1Ô2Ô3Ô4Ô5Ô6Ô7Ô8Ô9ÔAÔBÔCÔDÔEÔFÓC0Ô1Ô2Ô3Ô4Ô5Ô6Ô7Ô8Ô9ÔAÔBÔCÔDÔEÔFÓD0Ô1Ô2Ô3Ô4Ô5Ô",
  "6Ô7Ô8Ô9ÔAÔBÔCÔDÔEÔFÓE0Ô1Ô2Ô3Ô4Ô5Ô6Ô7Ô8Ô9ÔAÔBÔCÔDÔEÔFÓF0Ô1Ô2Ô3Ô4Ô5Ô6Ô7Ô8Ô9ÔAÔB#1BC00ÀDUPLOYAN LET",
  "TER HÐXÐPÐTÐFÐKÐLÐBÐDÐVÐGÐRÐP NÐD SÐF NÐK MÐR SÐTHÐSLOAN DHÐDHÐKKÐSLOAN JÐHLÐLHÐRHÐMÐNÐJÐSÐM NÐN ",
  "MÐJ MÐS JÐM WITH DOTÐN WITH DOTÐJ WITH DOTÚS INSIDE AND ABOVEÐS WITH DOTÚ BELOWÐM SÐN SÐJ SÐS SÐ",
  "M N SÐN M SÐJ M SÐS J SÐJ S WITH DOTÒNÓ SÐS TÓ RÒPÓ RÐT SÒR SÐWÑHÑ RÐS NÒMÐK R SÐG R SÐS KÓ RÐAÐ",
  "SLOAN OWÐOAÑÐAOUÐIÐEÐIEÐSHORT IÐUIÐEEÐSLOAN EHÐROMANIAN IÐSLOAN EEÐLONG IÐYEÐUÐEUÐXWÐU NÐLONG UÐ",
  "ROMANIAN UÐUHÐSLOAN UÐOOHÑWÑUÐWAÑOÑIÑEIÑOWÐNASAL UÖOÖIÖAÐPERNIN ANØMÐSLOAN ENÖANÖONÐVOCALIC M#1B",
  "C70ÉAFFIX LEFT HORIZONTAL SECANTÏMID HORIZONTAL SECANTÏRIGHT HORIZONTAL SECANTÏLOW VERTICAL SECA",
  "NTÏMID VERTICAL SECANTÏHIGH VERTICAL SECANTÏATTACHED SECANTØLEFT-TO-RIGHT SECANTØTANGENTÚILØE HO",
  "OKØI HOOKØTANGENT HOOK#1BC80ÏHIGH ACUTEÔTIGHT ACUTEÔGRAVEÔLONG GRAVEÔDOTÔCIRCLEÔLINEÔWAVEÔVERTIC",
  "AL#1BC90ÏLOW ACUTEÓTIGHT ACUTEÓGRAVEÓLONG GRAVEÓDOTÓCIRCLEÓLINEÓWAVEÓVERTICALÓARROW#1BC9CÉSIGN O ",
  "WITH CROSSÉTHICK LETTER SELECTORÉDOUBLE MARKÉPUNCTUATION CHINOOK FULL STOPÀSHORTHAND FORMAT LETT",
  "ER OVERLAPÑCONTINUING OVERLAPÑDOWN STEPÑUP STEP#1CF00ÀZNAMENNY COMBINING MARK GORAZDO NIZKO S KR",
  "YZHEM ON LEFTØNIZKO S KRYZHEM ON LEFTØTSATA ON LEFTØGORAZDO NIZKO ON LEFTØNIZKO ON LEFTØSREDNE O",
  "N LEFTØMALO POVYSHE ON LEFTØPOVYSHE ON LEFTØVYSOKO ON LEFTØMALO POVYSHE S KHOKHLOM ON LEFTØPOVYS",
  "HE S KHOKHLOM ON LEFTØVYSOKO S KHOKHLOM ON LEFTØGORAZDO NIZKO S KRYZHEM ON RIGHTØNIZKO S KRYZHEM ",
  "ON RIGHTØTSATA ON RIGHTØGORAZDO NIZKO ON RIGHTØNIZKO ON RIGHTØSREDNE ON RIGHTØMALO POVYSHE ON RI",
  "GHTØPOVYSHE ON RIGHTØVYSOKO ON RIGHTØMALO POVYSHE S KHOKHLOM ON RIGHTØPOVYSHE S KHOKHLOM ON RIGH",
  "TØVYSOKO S KHOKHLOM ON RIGHTØTSATA S KRYZHEMØMALO POVYSHE S KRYZHEMØSTRANNO MALO POVYSHEØPOVYSHE ",
  "S KRYZHEMáTRANNOØVYSOKO S KRYZHEMØMALO POVYSHE STRANNOØGORAZDO VYSOKOØZELOØONØRAVNOØTIKHAYAØBORZ",
  "AYAØUDARKAØPODVERTKAØLOMKAØKUPNAYAÙACHKAØZEVOKØSKOBAØRAZSEKAØKRYZH ON LEFT#1CF30ÓTONAL RANGE MAR",
  "K MRACHNOäSVETLOäTRESVETLOÓMARK ZADERZHKAØDEMESTVENNY ZADERZHKAØOTSECHKAØPODCHASHIEâ WITH VERTIC",
  "AL STROKEØCHASHKAß POLNAYAØOBLACHKOØSOROCHYA NOZHKAØTOCHKAØDVOETOCHIEÓATTACHING VERTICAL OMETÓMA",
  "RK CURVED OMETØKRYZHÓLOWER TONAL RANGE INDICATORÉPRIZNAK MODIFIER LEVEL-2à3ÚDIRECTION FLIPÚKRYZH",
  "ÚROG#1CF50ÉNEUME KRYUKÔ TIKHYÏPARAKLITÏDVA V CHELNUÏKLYUCHÏZANOZHEKÏSTOPITSA× S OCHKOMÏPEREVODKA",
  "Ø NEPOSTOYANNAYAÏSTOPITSA WITH SOROCHYA NOZHKAÏCHELYUSTKAÏPALKAÏZAPYATAYAÏGOLUBCHIK BORZYÙTIKHYÙ",
  "MRACHNYÙSVETLYÙTRESVETLYÏVRAKHIYA PROSTAYAØMRACHNAYAØSVETLAYAØTRESVETLAYAØKLYUCHEVAYA PROSTAYAäM",
  "RACHNAYAäSVETLAYAäTRESVETLAYAÏDOUBLE ZAPYATAYAÏREVERSED CHELYUSTKAÏDERBITSAÏKHAMILOÏCHASHKAÏPODC",
  "HASHIEÏSKAMEYTSA MRACHNAYAÙSVETLAYAÙTRESVETLAYAÚIKHAYAÏDEMESTVENNY KLYUCHÏSKAMEYTSA KLYUCHEVAYA ",
  "SVETLAYAàNEPOSTOYANNAYAàVAYA TIKHAYAÙDVOECHELNAYA PROSTAYAæSVETLAYAæNEPOSTOYANNAYAæKLYUCHEVAYAÐL",
  "OZHITIEØ S ZAPYATOYÙZAKRYTOEÙS KRYZHEMÏKRYZHÏROGÏFITAÏKOBYLAÏZMEYTSAÏSTATYAÕ S ZAPYATOYØKRYZHEMØ",
  "ZAPYATOY I KRYZHEMØKRYZHEM I ZAPYATOYÖZAKRYTAYAß S ZAPYATOYÖS ROGOMØDVUMYA ZAPYATYMIØZAPYATOY I ",
  "PODCHASHIEMÏPOLKULIZMYÏSTATYA NEPOSTOYANNAYAÑRELA PROSTAYAÖMRACHNOTIKHAYAÖKRYZHEVAYAÖPOLUPOVODNA",
  "YAØVODNAYAÖNEPOSTOYANNAYAÖKLYUCHEPOVODNAYAÝNEPOSTOYANNAYAÖTIKHAYA PUTNAYAÖDVOECHELNAYAßOKRYZHEVA",
  "YAàPOVODNAYAßAYA KLYUCHEVAYAßOPOVODNAYA KLYUCHEVAYAÖGROMNAYA WITH SINGLE ZAPYATAYAÚOPOVODNAYA WI",
  "TH SINGLE ZAPYATAYAÚNAYAÚOPOVODNAYAä WITH DOUBLE ZAPYATAYAÛKRYZHEVAYAå POVODNAYAÏMECHIKÕ POVODNY",
  "ÖKLYUCHEVOYÝPOVODNYÝNEPOSTOYANNYÏSTRELA TRYASOGLASNAYAÜPOVODNAYAÜSTRELNAYAÏOSOKAÔ SVETLAYAÕTRESV",
  "ETLAYAÕKRYUKOVAYA SVETLAYAÖLYUCHEVAYA SVETLAYAáNEPOSTOYANNAYAÏSTRELA KRYUKOVAYAà POVODNAYAáGROMN",
  "AYA WITH SINGLE ZAPYATAYAåOPOVODNAYA WITH SINGLE ZAPYATAYAåNAYAåOPOVODNAYAï WITH DOUBLE ZAPYATAY",
  "AæKRYZHEVAYAð POVODNAYAáTRYASKAÏKUFISMAÏOBLAKOÏDUDAÏNEMKAÏPAUK#1D000ÀBYZANTINE MUSICAL SYMBOL PS",
  "ILIÙDASEIAÙPERISPOMENIÙOXEIA EKFONITIKONßDIPLIÙVAREIA EKFONITIKONàDIPLIÙKATHISTIÙSYRMATIKIÙPARAK",
  "LITIKIÙYPOKRISISâ DIPLIÙKREMASTIÙAPESO EKFONITIKONÙEXO EKFONITIKONÙTELEIAÙKENTIMATAÙAPOSTROFOSã ",
  "DIPLIÙSYNEVMAÙTHITAÙOLIGON ARCHAIONÙGORGON ARCHAIONÙPSILONÙCHAMILONÙVATHYÙISON ARCHAIONÙKENTIMA ",
  "ARCHAIONàTA ARCHAIONÙSAXIMATAÙPARICHONÙSTAVROS APODEXIAÙOXEIAI ARCHAIONÙVAREIAI ARCHAIONÙAPODERM",
  "A ARCHAIONÜTHEMAÙKLASMAÙREVMAÙPIASMA ARCHAIONÙTINAGMAÙANATRICHISMAÙSEISMAÚYNAGMA ARCHAIONáMETA S",
  "TAVROUÙOYRANISMA ARCHAIONÙTHEMAÙLEMOIÙDYOÙTRIAÚESSERAÙKRATIMATAÙAPESO EXO NEOÙFTHORA ARCHAIONÙIM",
  "IFTHORAÙTROMIKON ARCHAIONÙKATAVA TROMIKONÙPELASTONÚSIFISTONÙKONTEVMAÙCHOREVMA ARCHAIONÙRAPISMAÙP",
  "ARAKALESMA ARCHAIONÞLITIKI ARCHAIONÙICHADINÙNANAÙPETASMAÙKONTEVMA ALLOÙTROMIKON ALLOÙSTRAGGISMAT",
  "AÙGRONTHISMATAÙISON NEOÙOLIGON NEOÚXEIA NEOÙPETASTIÙKOUFISMAÙPETASTOKOUFISMAÙKRATIMOKOUFISMAÙPEL",
  "ASTON NEOÙKENTIMATA NEO ANOà NEO ANOÙYPSILIÙAPOSTROFOS NEOâI SYNDESMOS NEOÙYPORROIÙKRATIMOYPORRO",
  "ONÙELAFRONÙCHAMILIÙMIKRON ISONÙVAREIA NEOÙPIASMA NEOÚSIFISTON NEOÙOMALONÙANTIKENOMAÙLYGISMAÙPARA",
  "KLITIKI NEOÞALESMA NEOÙETERON PARAKALESMAÙKYLISMAÙANTIKENOKYLISMAÙTROMIKON NEOÙEKSTREPTONÙSYNAGM",
  "A NEOÛRMAÙCHOREVMA NEOÙEPEGERMAÙSEISMA NEOÙXIRON KLASMAÙTROMIKOPSIFISTONÙPSIFISTOLYGISMAÙTROMIKO",
  "LYGISMAàPARAKALESMAÙPSIFISTOPARAKALESMAÙTROMIKOSYNAGMAÙPSIFISTOSYNAGMAÙGORGOSYNTHETONÙARGOSYNTHE",
  "TONÙETERON ARGOSYNTHETONÙOYRANISMA NEOÙTHEMATISMOS ESOæXOÞ APLOUNÜS KAI APOTHESÙKATAVASMAÙENDOFO",
  "NONÙYFEN KATOÞANOÙSTAVROSÙKLASMA ANOÙDIPLI ARCHAIONÙKRATIMA ARCHAIONâLLOáNEOÙAPODERMA NEOÛLIÙDIP",
  "LIÙTRIPLIÚETRAPLIÙKORONISÙLEIMMA ENOS CHRONOUàDYO CHRONONàTRION CHRONONáESSARON CHRONONàIMISEOS ",
  "CHRONOUÙGORGON NEO ANOàPARESTIGMENON ARISTERAîDEXIAÙDIGORGONá PARESTIGMENON ARISTERA KATOùANOðDE",
  "XIAÙTRIGORGONÙARGONÙIMIDIARGONÙDIARGONÙAGOGI POLI ARGIßARGOTERIâIßMETRIAáSIßGORGIãOTERIßPOLI GOR",
  "GIÙMARTYRIA PROTOS ICHOSâALLI PROTOS ICHOSâDEYTEROS ICHOSâALLI DEYTEROS ICHOSâTRITOS ICHOSåFONIA",
  "SãETARTOS ICHOSëLEGETOS ICHOSâLEGETOS ICHOSâPLAGIOS ICHOSÙISAKIA TELOUS ICHIMATOSÙAPOSTROFOI TEL",
  "OUS ICHIMATOSÙFANEROSIS TETRAFONIASãMONOFONIASãDIFONIASÙMARTYRIA VARYS ICHOSâPROTOVARYS ICHOSãLA",
  "GIOS TETARTOS ICHOSÙGORTHMIKON N APLOUNæDIPLOUNÙENARXIS KAI FTHORA VOUÙIMIFONONÝTHORONÙFTHORA AR",
  "CHAION DEYTEROU ICHOUàDIATONIKI PAêNANAàNAOS ICHOSàDIATONIKI DIàSKLIRON DIATONON DIàDIATONIKI KE",
  "êZOêNI KATOíANOàMALAKON CHROMA DIFONIASïMONOFONIASÚHTORA SKLIRON CHROMA VASISÚTHORA SKLIRON CHRO",
  "MA SYNAFIàNENANOÙCHROA ZYGOSßKLITONßSPATHIÙFTHORA I YFESIS TETARTIMORIONàENARMONIOS ANTIFONIAÙYF",
  "ESIS TRITIMORIONÙDIESIS TRITIMORIONáETARTIMORIONàAPLI DYO DODEKATAàMONOGRAMMOS TESSERA DODEKATAà",
  "DIGRAMMOS EX DODEKATAàTRIGRAMMOS OKTO DODEKATAÙYFESIS APLI DYO DODEKATAàMONOGRAMMOS TESSERA DODE",
  "KATAàDIGRAMMOS EX DODEKATAàTRIGRAMMOS OKTO DODEKATAÙGENIKI DIESISàYFESISÙDIASTOLI APLI MIKRIèEGA",
  "LIâDIPLIâTHESEOSÙSIMANSIS THESEOSé DISIMOUêTRISIMOUëETRASIMOUâARSEOSè DISIMOUéTRISIMOUêETRASIMOU",
  "ÙDIGRAMMA GGÛFTOGGOS OUÙSTIGMAÙARKTIKO PAáVOUáGAáDIáKEáZOáNIÙKENTIMATA NEO MESOà NEO MESOàTA NEO ",
  "KATOà NEO KATOÚLASMA KATOÙGORGON NEO KATO#1D100ÀMUSICAL SYMBOL SINGLE BARLINEÏDOUBLE BARLINEÏFIN",
  "AL BARLINEÏREVERSE FINAL BARLINEÏDASHED BARLINEÏSHORT BARLINEÏLEFT REPEAT SIGNÏRIGHT REPEAT SIGN",
  "ÐEPEAT DOTSÏDAL SEGNOÑ CAPOÏSEGNOÏCODAÏREPEATED FIGURE-1ß2ß3ÏFERMATAÖ BELOWÏBREATH MARKÏCAESURAÏ",
  "BRACEÓKETÏONE-LINE STAFFÏTWO-LINE STAFFÐHREE-LINE STAFFÏFOUR-LINE STAFFÐIVE-LINE STAFFÏSIX-LINE ",
  "STAFFÓSTRING FRETBOARDÏFOUR-STRING FRETBOARDÏG CLEFÕ OTTAVA ALTAÝBASSAÏC CLEFÏF CLEFÕ OTTAVA ALT",
  "AÝBASSAÏDRUM CLEF-1Ù2#1D129ÏMULTIPLE MEASURE RESTÏDOUBLE SHARPÖFLATÏFLAT UPÔDOWNÏNATURAL UP×DOWN",
  "ÏSHARP UPÕDOWNÏQUARTER TONE SHARPÜFLATÏCOMMON TIMEÐUT TIMEÏOTTAVA ALTAÖBASSAÏQUINDICESIMA ALTAÜB",
  "ASSAÏMULTI RESTÏWHOLE RESTÏHALF RESTÏQUARTER RESTÏEIGHTH RESTÏSIXTEENTH RESTÏTHIRTY-SECOND RESTÏ",
  "SIXTY-FOURTH RESTÏONE HUNDRED TWENTY-EIGHTH RESTÏX NOTEHEADÏPLUS NOTEHEADÏCIRCLE X NOTEHEADÏSQUA",
  "RE NOTEHEAD WHITEßBLACKÏTRIANGLE NOTEHEAD UP WHITEäBLACKáLEFT WHITEæBLACKáRIGHT WHITEçBLACKáDOWN ",
  "WHITEæBLACKáUP RIGHT WHITEêBLACKÏMOON NOTEHEAD WHITEÝBLACKÏTRIANGLE-ROUND NOTEHEAD DOWN WHITEìBL",
  "ACKÏPARENTHESIS NOTEHEADÏVOID NOTEHEADÏNOTEHEAD BLACKÐULL NOTEHEADÏCLUSTER NOTEHEAD WHITEàBLACKÏ",
  "BREVEÏWHOLE NOTEÏHALF NOTEÏQUARTER NOTEÏEIGHTH NOTEÏSIXTEENTH NOTEÏTHIRTY-SECOND NOTEÏSIXTY-FOUR",
  "TH NOTEÏONE HUNDRED TWENTY-EIGHTH NOTEÏCOMBINING STEMÚPRECHGESANG STEMÙTREMOLO-1á2á3ÏFINGERED TR",
  "EMOLO-1à2à3ÏCOMBINING AUGMENTATION DOTÙFLAG-1Þ2Þ3Þ4Þ5ÏBEGIN BEAMÏEND BEAMÏBEGIN TIEÏEND TIEÏBEGI",
  "N SLURÏEND SLURÏBEGIN PHRASEÏEND PHRASEÏCOMBINING ACCENTÙSTACCATOÙTENUTOÙSTACCATISSIMOÙMARCATOà-",
  "STACCATOÙACCENT-STACCATOÙLOUREÏARPEGGIATO UPÚDOWNÏCOMBINING DOITÙRIPÙFLIPÙSMEARÙBENDÙDOUBLE TONG",
  "UEÙTRIPLE TONGUEÏRINFORZANDOÏSUBITOÏZÏPIANOÏMEZZOÏFORTEÏCRESCENDOÏDECRESCENDOÏGRACE NOTE SLASHÚN",
  "O SLASHÏTRÐURNÏINVERTED TURNÏTURN SLASHÔUPÏORNAMENT STROKE-1ß2ß3ß4ß5ß6ß7ß8ß9ß10à1ÏHAUPTSTIMMEÏNE",
  "BENSTIMMEÏEND OF STIMMEÏDEGREE SLASHÏCOMBINING DOWN BOWÙUP BOWÙHARMONICÙSNAP PIZZICATOÏPEDAL MAR",
  "KÕUP MARKÏHALF PEDAL MARKÏGLISSANDO UPÙDOWNÏWITH FINGERNAILSÏDAMPÓ ALLÏMAXIMAÏLONGAÏBREVISÏSEMIB",
  "REVIS WHITEÚBLACKÏMINIMAÕ BLACKÏSEMIMINIMA WHITEÚBLACKÏFUSA WHITEÔBLACKÏLONGA PERFECTA RESTÕIMPE",
  "RFECTA RESTÏBREVIS RESTÏSEMIBREVIS RESTÏMINIMA RESTÏSEMIMINIMA RESTÏTEMPUS PERFECTUM CUM PROLATI",
  "ONE PERFECTAïIMPERFECTAïPERFECTA DIMINUTION-1ÖIMPERFECTUM CUM PROLATIONE PERFECTAñIMPERFECTAû DI",
  "MINUTION-1ć2ć3ÏCROIXÏGREGORIAN C CLEFÙF CLEFÏSQUARE BÏVIRGAÏPODATUSÏCLIVISÏSCANDICUSÏCLIMACUSÏTO",
  "RCULUSÏPORRECTUSØ FLEXUSÏSCANDICUS FLEXUSÏTORCULUS RESUPINUSÏPES SUBPUNCTISÏKIEVAN C CLEFÖEND OF ",
  "PIECEÖFINAL NOTEÖRECITATIVE MARKÖWHOLE NOTEÖHALF NOTEÖQUARTER NOTE STEM DOWNèUPÖEIGHTH NOTE STEM ",
  "DOWNçUPÖFLAT SIGNÏSORIÏKORON#1D200ÀGREEK VOCAL NOTATION SYMBOL-1Ü2Ü3Ü4Ü5Ü6Ü7Ü8Ü9Ü10Ý1Ý2Ý3Ý4Ý5Ý6Ý",
  "7Ý8Ý9Ü20Ý1Ý2Ý3Ý4Ü50Ý1Ý2Ý3Ý4ÆINSTRUMENTAL NOTATION SYMBOL-1ã2ã4ã5ã7ã8ã11ä2ä3ä4ä7ä8ä9ã23ä4ä5ä6ä7ä9",
  "ã30ä2ä6ä7ä8ä9ã40ä2ä3ä5ä7ä8ä9ã50ä1ä2ä3ä4ÀCOMBINING GREEK MUSICAL TRISEMEÙETRASEMEØPENTASEMEÀGREEK ",
  "MUSICAL LEIMMA#1D2E0ÀMAYAN NUMERAL ZEROÎONEÎTWOÏHREEÎFOURÏIVEÎSIXÏEVENÎEIGHTÎNINEÎTENÎELEVENÎTWE",
  "LVEÏHIRTEENÎFOURTEENÏIFTEENÎSIXTEENÏEVENTEENÎEIGHTEENÎNINETEEN#1D300ÁONOGRAM FOR EARTHÀDIGRAM FO",
  "R HEAVENLY EARTHÌUMAN EARTHËEARTHLY HEAVENÔUMANÐÀTETRAGRAM FOR CENTREÎFULL CIRCLEÎMIREDÎBARRIERÎ",
  "KEEPING SMALLÎCONTRARIETYÎASCENTÎOPPOSITIONÎBRANCHING OUTÎDEFECTIVENESS OR DISTORTIONÏIVERGENCEÎ",
  "YOUTHFULNESSÎINCREASEÎPENETRATIONÎREACHÎCONTACTÎHOLDING BACKÎWAITINGÎFOLLOWINGÎADVANCEÎRELEASEÐS",
  "ISTANCEÎEASEÎJOYÎCONTENTIONÎENDEAVOURÎDUTIESÎCHANGEÎDECISIVENESSÎBOLD RESOLUTIONÎPACKINGÎLEGIONÎ",
  "CLOSENESSÎKINSHIPÎGATHERINGÎSTRENGTHÎPURITYÎFULLNESSÎRESIDENCEÎLAW OR MODELÎRESPONSEÎGOING TO ME",
  "ETÎENCOUNTERSÎSTOVEÎGREATNESSÎENLARGEMENTÎPATTERNÎRITUALÎFLIGHTÎVASTNESS OR WASTINGÎCONSTANCYÎME",
  "ASUREÎETERNITYÎUNITYÎDIMINISHMENTÎCLOSED MOUTHÎGUARDEDNESSÏATHERING INÎMASSINGÎACCUMULATIONÎEMBE",
  "LLISHMENTÎDOUBTÎWATCHÎSINKINGÎINNERÎDEPARTUREÏARKENINGÏIMMINGÎEXHAUSTIONÎSEVERANCEÏTOPPAGEÎHARDN",
  "ESSÎCOMPLETIONÏLOSUREÎFAILUREÎAGGRAVATIONÎCOMPLIANCEÎON THE VERGEÎDIFFICULTIESÎLABOURINGÎFOSTERI",
  "NG#1D360ÀCOUNTING ROD UNIT DIGIT ONEØTWOÙHREEØFOURÙIVEØSIXÙEVENØEIGHTØNINEÍTENS DIGIT ONEØTWOÙHR",
  "EEØFOURÙIVEØSIXÙEVENØEIGHTØNINEÀIDEOGRAPHIC TALLY MARK ONE×TWOØHREE×FOURØIVEÀTALLY MARK ONEËFIVE",
  "#1D400ÀMATHEMATICAL BOLD CAPITAL AÚBÚCÚDÚEÚFÚGÚHÚIÚJÚKÚLÚMÚNÚOÚPÚQÚRÚSÚTÚUÚVÚWÚXÚYÚZÒSMALL AØBØC",
  "ØDØEØFØGØHØIØJØKØLØMØNØOØPØQØRØSØTØUØVØWØXØYØZÍITALIC CAPITAL AÜBÜCÜDÜEÜFÜGÜHÜIÜJÜKÜLÜMÜNÜOÜPÜQÜ",
  "RÜSÜTÜUÜVÜWÜXÜYÜZÔSMALL AÚBÚCÚDÚEÚFÚG#1D456ÚIÚJÚKÚLÚMÚNÚOÚPÚQÚRÚSÚTÚUÚVÚWÚXÚYÚZÍBOLD ITALIC CAPI",
  "TAL AáBáCáDáEáFáGáHáIáJáKáLáMáNáOáPáQáRáSáTáUáVáWáXáYáZÙSMALL AßBßCßDßEßFßGßHßIßJßKßLßMßNßOßPßQß",
  "RßSßTßUßVßWßXßYßZÍSCRIPT CAPITAL A#1D49EÜCÜD#1D4A2ÜG#1D4A5ÜJÜK#1D4A9ÜNÜOÜPÜQ#1D4AEÜSÜTÜUÜVÜWÜXÜY",
  "ÜZÔSMALL AÚBÚCÚD#1D4BBÚF#1D4BDÚHÚIÚJÚKÚLÚMÚN#1D4C5ÚPÚQÚRÚSÚTÚUÚVÚWÚXÚYÚZÍBOLD SCRIPT CAPITAL AáB",
  "áCáDáEáFáGáHáIáJáKáLáMáNáOáPáQáRáSáTáUáVáWáXáYáZÙSMALL AßBßCßDßEßFßGßHßIßJßKßLßMßNßOßPßQßRßSßTßU",
  "ßVßWßXßYßZÍFRAKTUR CAPITAL AÝB#1D507ÝDÝEÝFÝG#1D50DÝJÝKÝLÝMÝNÝOÝPÝQ#1D516ÝSÝTÝUÝVÝWÝXÝY#1D51EÕSMA",
  "LL AÛBÛCÛDÛEÛFÛGÛHÛIÛJÛKÛLÛMÛNÛOÛPÛQÛRÛSÛTÛUÛVÛWÛXÛYÛZÍDOUBLE-STRUCK CAPITAL AãB#1D53BãDãEãFãG#1",
  "D540ãIãJãKãLãM#1D546ãO#1D54AãSãTãUãVãWãXãY#1D552ÛSMALL AáBáCáDáEáFáGáHáIáJáKáLáMáNáOáPáQáRáSáTáU",
  "áVáWáXáYáZÍBOLD FRAKTUR CAPITAL AâBâCâDâEâFâGâHâIâJâKâLâMâNâOâPâQâRâSâTâUâVâWâXâYâZÚSMALL AàBàCà",
  "DàEàFàGàHàIàJàKàLàMàNàOàPàQàRàSàTàUàVàWàXàYàZÍSANS-SERIF CAPITAL AàBàCàDàEàFàGàHàIàJàKàLàMàNàOàP",
  "àQàRàSàTàUàVàWàXàYàZØSMALL AÞBÞCÞDÞEÞFÞGÞHÞIÞJÞKÞLÞMÞNÞOÞPÞQÞRÞSÞTÞUÞVÞWÞXÞYÞZØBOLD CAPITAL AåBå",
  "CåDåEåFåGåHåIåJåKåLåMåNåOåPåQåRåSåTåUåVåWåXåYåZÝSMALL AãBãCãDãEãFãGãHãIãJãKãLãMãNãOãPãQãRãSãTãUã",
  "VãWãXãYãZØITALIC CAPITAL AçBçCçDçEçFçGçHçIçJçKçLçMçNçOçPçQçRçSçTçUçVçWçXçYçZßSMALL AåBåCåDåEåFåG",
  "åHåIåJåKåLåMåNåOåPåQåRåSåTåUåVåWåXåYåZØBOLD ITALIC CAPITAL AìBìCìDìEìFìGìHìIìJìKìLìMìNìOìPìQìRìS",
  "ìTìUìVìWìXìYìZäSMALL AêBêCêDêEêFêGêHêIêJêKêLêMêNêOêPêQêRêSêTêUêVêWêXêYêZÍMONOSPACE CAPITAL AßBßC",
  "ßDßEßFßGßHßIßJßKßLßMßNßOßPßQßRßSßTßUßVßWßXßYßZ×SMALL AÝBÝCÝDÝEÝFÝGÝHÝIÝJÝKÝLÝMÝNÝOÝPÝQÝRÝSÝTÝUÝV",
  "ÝWÝXÝYÝZÍITALIC SMALL DOTLESS IâJ#1D6A8ÍBOLD CAPITAL ALPHAÚBETAÚGAMMAÚDELTAÚEPSILONÚZETAÚETAÚTHE",
  "TAÚIOTAÚKAPPAÚLAMDAÚMUÚNUÚXIÚOMICRONÚPIÚRHOÚTHETA SYMBOLÚSIGMAÚTAUÚUPSILONÚPHIÚCHIÚPSIÚOMEGAÒNAB",
  "LAÒSMALL ALPHAØBETAØGAMMAØDELTAØEPSILONØZETAØETAØTHETAØIOTAØKAPPAØLAMDAØMUØNUØXIØOMICRONØPIØRHOØ",
  "FINAL SIGMAØSIGMAØTAUØUPSILONØPHIØCHIØPSIØOMEGAÒPARTIAL DIFFERENTIALÒEPSILON SYMBOLÒTHETA SYMBOL",
  "ÒKAPPA SYMBOLÒPHI SYMBOLÒRHO SYMBOLÒPI SYMBOLÍITALIC CAPITAL ALPHAÜBETAÜGAMMAÜDELTAÜEPSILONÜZETA",
  "ÜETAÜTHETAÜIOTAÜKAPPAÜLAMDAÜMUÜNUÜXIÜOMICRONÜPIÜRHOÜTHETA SYMBOLÜSIGMAÜTAUÜUPSILONÜPHIÜCHIÜPSIÜO",
  "MEGAÔNABLAÔSMALL ALPHAÚBETAÚGAMMAÚDELTAÚEPSILONÚZETAÚETAÚTHETAÚIOTAÚKAPPAÚLAMDAÚMUÚNUÚXIÚOMICRON",
  "ÚPIÚRHOÚFINAL SIGMAÚSIGMAÚTAUÚUPSILONÚPHIÚCHIÚPSIÚOMEGAÔPARTIAL DIFFERENTIALÔEPSILON SYMBOLÔTHET",
  "A SYMBOLÔKAPPA SYMBOLÔPHI SYMBOLÔRHO SYMBOLÔPI SYMBOLÍBOLD ITALIC CAPITAL ALPHAáBETAáGAMMAáDELTA",
  "áEPSILONáZETAáETAáTHETAáIOTAáKAPPAáLAMDAáMUáNUáXIáOMICRONáPIáRHOáTHETA SYMBOLáSIGMAáTAUáUPSILONá",
  "PHIáCHIáPSIáOMEGAÙNABLAÙSMALL ALPHAßBETAßGAMMAßDELTAßEPSILONßZETAßETAßTHETAßIOTAßKAPPAßLAMDAßMUß",
  "NUßXIßOMICRONßPIßRHOßFINAL SIGMAßSIGMAßTAUßUPSILONßPHIßCHIßPSIßOMEGAÙPARTIAL DIFFERENTIALÙEPSILO",
  "N SYMBOLÙTHETA SYMBOLÙKAPPA SYMBOLÙPHI SYMBOLÙRHO SYMBOLÙPI SYMBOLÍSANS-SERIF BOLD CAPITAL ALPHA",
  "åBETAåGAMMAåDELTAåEPSILONåZETAåETAåTHETAåIOTAåKAPPAåLAMDAåMUåNUåXIåOMICRONåPIåRHOåTHETA SYMBOLåS",
  "IGMAåTAUåUPSILONåPHIåCHIåPSIåOMEGAÝNABLAÝSMALL ALPHAãBETAãGAMMAãDELTAãEPSILONãZETAãETAãTHETAãIOT",
  "AãKAPPAãLAMDAãMUãNUãXIãOMICRONãPIãRHOãFINAL SIGMAãSIGMAãTAUãUPSILONãPHIãCHIãPSIãOMEGAÝPARTIAL DI",
  "FFERENTIALÝEPSILON SYMBOLÝTHETA SYMBOLÝKAPPA SYMBOLÝPHI SYMBOLÝRHO SYMBOLÝPI SYMBOLÝITALIC CAPIT",
  "AL ALPHAìBETAìGAMMAìDELTAìEPSILONìZETAìETAìTHETAìIOTAìKAPPAìLAMDAìMUìNUìXIìOMICRONìPIìRHOìTHETA ",
  "SYMBOLìSIGMAìTAUìUPSILONìPHIìCHIìPSIìOMEGAäNABLAäSMALL ALPHAêBETAêGAMMAêDELTAêEPSILONêZETAêETAêT",
  "HETAêIOTAêKAPPAêLAMDAêMUêNUêXIêOMICRONêPIêRHOêFINAL SIGMAêSIGMAêTAUêUPSILONêPHIêCHIêPSIêOMEGAäPA",
  "RTIAL DIFFERENTIALäEPSILON SYMBOLäTHETA SYMBOLäKAPPA SYMBOLäPHI SYMBOLäRHO SYMBOLäPI SYMBOLÍBOLD ",
  "CAPITAL DIGAMMAÒSMALL DIGAMMA#1D7CEÒDIGIT ZEROØONEØTWOÙHREEØFOURÙIVEØSIXÙEVENØEIGHTØNINEÍDOUBLE-",
  "STRUCK DIGIT ZEROáONEáTWOâHREEáFOURâIVEáSIXâEVENáEIGHTáNINEÍSANS-SERIF DIGIT ZEROÞONEÞTWOßHREEÞF",
  "OURßIVEÞSIXßEVENÞEIGHTÞNINEØBOLD DIGIT ZEROãONEãTWOäHREEãFOURäIVEãSIXäEVENãEIGHTãNINEÍMONOSPACE ",
  "DIGIT ZEROÝONEÝTWOÞHREEÝFOURÞIVEÝSIXÞEVENÝEIGHTÝNINEÀSIGNWRITING HAND-FIST INDEXÑCIRCLE INDEXÒUP ",
  "INDEXÑOVAL INDEXÑHINGE INDEXÑANGLE INDEXÑFIST INDEX BENTÑCIRCLE INDEX BENTÑFIST THUMB UNDER INDE",
  "X BENTÖINDEX RAISED KNUCKLEÜCUPPEDÜHINGEDâ LOWÑCIRCLE INDEX HINGEÑFIST INDEX MIDDLEÑCIRCLE INDEX ",
  "MIDDLEÑFIST INDEX MIDDLE BENTãRAISED KNUCKLESãHINGEDÜUP MIDDLE HINGEDÜHINGED MIDDLE UPÜMIDDLE CO",
  "NJOINEDì INDEX BENTíMIDDLE BENTíCUPPEDíHINGEDäROSSEDÑCIRCLE INDEX MIDDLE CROSSEDÑFIST MIDDLE BEN",
  "T OVER INDEXÖINDEX BENT OVER MIDDLEÜMIDDLE THUMBÑCIRCLE INDEX MIDDLE THUMBÑFIST INDEX MIDDLE STR",
  "AIGHT THUMB BENTãBENT THUMB STRAIGHTãTHUMB BENTãHINGED SPREAD THUMB SIDEÜUP MIDDLE HINGED THUMB ",
  "SIDEóCONJOINEDÜHINGED MIDDLE UP THUMB SIDEÜMIDDLE UP SPREAD THUMB FORWARDãTHUMB CUPPEDêIRCLEDéHO",
  "OKEDêINGEDÖTHUMB BETWEEN INDEX MIDDLE STRAIGHTÖINDEX MIDDLE CONJOINED THUMB SIDE÷ CONJOINEDøBENT",
  "ÖMIDDLE THUMB HOOKED INDEX UPÖINDEX THUMB HOOKED MIDDLE UPÜMIDDLE CONJOINED HINGED THUMB SIDEäRO",
  "SSED THUMB SIDEäONJOINED THUMB FORWARDíCUPPED THUMB FORWARDÖMIDDLE THUMB CUPPED INDEX UPÖINDEX T",
  "HUMB CUPPED MIDDLE UPÖMIDDLE THUMB CIRCLED INDEX UPñHINGEDÖINDEX THUMB ANGLED OUT MIDDLE UPéIN M",
  "IDDLE UPâCIRCLED MIDDLE UPÜMIDDLE THUMB CONJOINED HINGEDéANGLED OUTïÖMIDDLE THUMB ANGLED OUT IND",
  "EX UPôCROSSEDêINDEX UPÖINDEX THUMB HOOKED MIDDLE HINGEDÒLAT FOUR FINGERSâ BENTãHINGEDãCONJOINEDì ",
  "SPLITÑCLAW FOUR FINGERS CONJOINEDÑFIST FOUR FINGERS CONJOINED BENTÑHINGE FOUR FINGERS CONJOINEDÑ",
  "FLAT FIVE FINGERS SPREADÖHEEL FIVE FINGERS SPREADÖFIVE FINGERS SPREAD FOUR BENTÖHEEL FIVE FINGER",
  "S SPREAD FOUR BENTÖFIVE FINGERS SPREAD BENTÖHEEL FIVE FINGERS SPREAD BENTÖFIVE FINGERS SPREAD TH",
  "UMB FORWARDÑCUP FIVE FINGERS SPREADè OPENÑHINGE FIVE FINGERS SPREAD OPENÑOVAL FIVE FINGERS SPREA",
  "DÑFLAT FIVE FINGERS SPREAD HINGEDð THUMB SIDEñNO THUMBÕÕ BETWEEN PALM FACINGSÖHEELÖTHUMB SIDEÖHE",
  "EL THUMB SIDEÖTHUMB BENTÜFORWARDÖSPLIT INDEX THUMB SIDEÜCENTREâ THUMB SIDEí BENTÜLITTLEÑCLAWÕ TH",
  "UMB SIDEÖNO THUMBÖTHUMB FORWARDÑHOOK CURLICUEÕÑCUP OPENÔÔ OPEN THUMB SIDEÕTHUMB SIDEÕOPEN NO THU",
  "MBÕNO THUMBÕOPEN THUMB FORWARDÕTHUMB FORWARDÓRLICUE OPENÙÒIRCLEÑOVALÕ THUMB SIDEÖNO THUMBÖTHUMB ",
  "FORWARDÑHINGE OPENÛ THUMB FORWARDÖÖ SMALL×OPEN THUMB SIDE×THUMB SIDE×OPEN NO THUMB×NO THUMB×THUM",
  "B SIDE TOUCHING INDEXÝBETWEEN MIDDLE RINGÑANGLEÑFIST INDEX MIDDLE RINGÑCIRCLE INDEX MIDDLE RINGÑ",
  "HINGE INDEX MIDDLE RINGÑANGLE INDEX MIDDLE RINGÑHINGE LITTLEÑFIST INDEX MIDDLE RING BENTèCONJOIN",
  "EDÑHINGE INDEX MIDDLE RING CONJOINEDÑFIST LITTLE DOWNá RIPPLE STRAIGHTéCURVEDâOTHERS CIRCLEDÝUPÖ",
  "THUMB UNDER LITTLE UPÑCIRCLE LITTLE UPÑOVAL LITTLE UPÑANGLE LITTLE UPÑFIST LITTLE RAISED KNUCKLE",
  "ÝBENTÝTOUCHES THUMBÞHUMBÑHINGE LITTLE THUMBÑFIST LITTLE INDEX THUMBÑHINGE LITTLE INDEX THUMBÑANG",
  "LE LITTLE INDEX THUMB INDEX THUMB OUTõÑFIST LITTLE INDEXÑCIRCLE LITTLE INDEXÑHINGE LITTLE INDEXÑ",
  "ANGLE LITTLE INDEXÑFIST INDEX MIDDLE LITTLEÑCIRCLE INDEX MIDDLE LITTLEÑHINGE INDEX MIDDLE LITTLE",
  "×RINGÑANGLE INDEX MIDDLE LITTLEÑFIST INDEX MIDDLE CROSS LITTLEÑCIRCLE INDEX MIDDLE CROSS LITTLEÑ",
  "FIST RING DOWNÑHINGE RING DOWN INDEX THUMB HOOK MIDDLEÑANGLE RING DOWN MIDDLE THUMB INDEX CROSSÑ",
  "FIST RING UPÛRAISED KNUCKLEÛLITTLEÑCIRCLE RING LITTLEÑOVAL RING LITTLEÑANGLE RING LITTLEÑFIST RI",
  "NG MIDDLEá CONJOINEDâRAISED KNUCKLESÛINDEXÛTHUMBÑHOOK RING THUMBÑFIST INDEX RING LITTLEÑCIRCLE I",
  "NDEX RING LITTLEÒURLICUE INDEX RING LITTLE ONÑHOOK INDEX RING LITTLE OUTèINèUNDERÑCUP INDEX RING ",
  "LITTLEÑHINGE INDEX RING LITTLEÑANGLE INDEX RING LITTLE OUTèÑFIST MIDDLE DOWNÑHINGE MIDDLEÑFIST M",
  "IDDLE UPÑCIRCLE MIDDLE UPÑFIST MIDDLE RAISED KNUCKLEÝUP THUMB SIDEÑHOOK MIDDLE THUMBÑFIST MIDDLE ",
  "THUMB LITTLEÝLITTLEÝRING LITTLEÑCIRCLE MIDDLE RING LITTLEÒURLICUE MIDDLE RING LITTLE ONÓP MIDDLE ",
  "RING LITTLEÑHINGE MIDDLE RING LITTLEÑANGLE MIDDLE RING LITTLE OUTêINéÑCIRCLE MIDDLE RING LITTLE ",
  "BENTÒLAW MIDDLE RING LITTLE CONJOINEDò SIDEÑHOOK MIDDLE RING LITTLE CONJOINED OUTóINòÒINGE INDEX ",
  "HINGEDÑFIST INDEX THUMB SIDEÑHINGE INDEX THUMB SIDEÑFIST INDEX THUMB SIDE THUMB DIAGONALíCONJOIN",
  "EDíBENTçINDEX BENTçBOTH BENTçINDEX HINGEâFORWARD INDEX STRAIGHTðBENTâHOOKâCURLICUEåVE THUMB INSI",
  "DEÑCLAW INDEX THUMB CURVE THUMB INSIDEÑFIST INDEX THUMB CURVE THUMB UNDERãIRCLEÑCUP INDEX THUMBà ",
  "OPENÑHINGE INDEX THUMB OPENãLARGEââ SMALLÑANGLE INDEX THUMB OUTãINâÑFIST THUMBÛ HEELÜSIDE DIAGON",
  "ALáCONJOINEDáBENTÜFORWARDÜBETWEEN INDEX MIDDLEäMIDDLE RINGäRING LITTLEÜUNDER TWO FINGERSÜOVER TW",
  "O FINGERSÜUNDER THREE FINGERSâFOUR FINGERSÜOVER FOUR RAISED KNUCKLESÕÕ HEELÌTOUCH SINGLEÒMULTIPL",
  "EÒBETWEENÌGRASP SINGLEÒMULTIPLEÒBETWEENÌSTRIKE SINGLEÓMULTIPLEÓBETWEENÌBRUSH SINGLEÒMULTIPLEÒBET",
  "WEENÌRUB SINGLEÐMULTIPLEÐBETWEENÌSURFACE SYMBOLSÔBETWEENÍQUEEZE LARGE SINGLEÔSMALL SINGLEÔLARGE ",
  "MULTIPLEÔSMALL MULTIPLEÕEQUENTIALÌFLICK LARGE SINGLEÒSMALL SINGLEÒLARGE MULTIPLEÒSMALL MULTIPLEÓ",
  "EQUENTIALÌSQUEEZE FLICK ALTERNATINGÌMOVEMENT-HINGE UP DOWN LARGEãSMALLÞSEQUENTIALÛDOWN SEQUENTIA",
  "LÛUP DOWN ALTERNATING LARGEïSMALLÛSIDE TO SIDE SCISSORSÕWALLPLANE FINGER CONTACTÕFLOORPLANE FING",
  "ER CONTACTÕWALLPLANE SINGLE STRAIGHT SMALLïMEDIUMïLARGEôSTæWRIST FLEXßDOUBLE STRAIGHTæWRIST FLEX",
  "æALTERNATINGñ WRIST FLEXßCROSSßTRIPLE STRAIGHT MOVEMENTæWRIST FLEXæALTERNATINGñ WRIST FLEXßBEND ",
  "SMALLäMEDIUMäLARGEßCORNER SMALLæMEDIUMæLARGEæROTATIONàHECK SMALLåMEDIUMåLARGEßBOX SMALLãMEDIUMãL",
  "ARGEßZIGZAG SMALLæMEDIUMæLARGEßPEAKS SMALLåMEDIUMåLARGEÌTRAVEL-WALLPLANE ROTATION-WALLPLANE SING",
  "LEðDOUBLEðALTERNATINGæFLOORPLANE SINGLEñDOUBLEñALTERNATINGÝSHAKINGÝARM SPIRAL SINGLEèDOUBLEèTRIP",
  "LEÌMOVEMENT-DIAGONAL AWAY SMALLãMEDIUMãLARGEèSTÞTOWARDS SMALLæMEDIUMæLARGEëSTÞBETWEEN AWAY SMALL",
  "ëMEDIUMëLARGEðSTæTOWARDS SMALLîMEDIUMîLARGEóSTÕFLOORPLANE SINGLE STRAIGHT SMALLðMEDIUMðLARGEõSTç",
  "WRIST FLEXàDOUBLE STRAIGHTçWRIST FLEXçALTERNATINGò WRIST FLEXàCROSSàTRIPLE STRAIGHT MOVEMENTçWRI",
  "ST FLEXçALTERNATING MOVEMENTóWRIST FLEXàBENDàCORNER SMALLçMEDIUMçLARGEáHECKàBOX SMALLäMEDIUMäLAR",
  "GEàZIGZAG SMALLçMEDIUMçLARGEàPEAKS SMALLæMEDIUMæLARGEÌTRAVEL-FLOORPLANE ROTATION-FLOORPLANE SING",
  "LEòDOUBLEòALTERNATINGçWALLPLANE SINGLEñDOUBLEñALTERNATINGÞSHAKINGÌMOVEMENT-WALLPLANE CURVE QUART",
  "ER SMALLíMEDIUMíLARGEòSTåHALF-CIRCLE SMALLñMEDIUMñLARGEöSTåTHREE-QUARTER CIRCLE SMALLúMEDIUMßHUM",
  "P SMALLäMEDIUMäLARGEßLOOP SMALLäMEDIUMäLARGEäSMALL DOUBLEßWAVE CURVE DOUBLE SMALLñMEDIUMñLARGEêT",
  "RIPLE SMALLñMEDIUMñLARGEßCURVE THEN STRAIGHTäD CROSS SMALLìMEDIUMÌROTATION-WALLPLANE SINGLEßDOUB",
  "LEßALTERNATEÌMOVEMENT-WALLPLANE SHAKINGßCURVE HITTING FRONT WALLßHUMP HITTING FRONT WALLßLOOP HI",
  "TTING FRONT WALLßWAVE HITTING FRONT WALLÌROTATION-WALLPLANE SINGLE HITTING FRONT WALLßDOUBLE HIT",
  "TING FRONT WALLßALTERNATING HITTING FRONT WALLÌMOVEMENT-WALLPLANE CURVE HITTING CHESTßHUMP HITTI",
  "NG CHESTßLOOP HITTING CHESTßWAVE HITTING CHESTÌROTATION-WALLPLANE SINGLE HITTING CHESTßDOUBLE HI",
  "TTING CHESTßALTERNATING HITTING CHESTÌMOVEMENT-WALLPLANE WAVE DIAGONAL PATH SMALLòMEDIUMòLARGEÕF",
  "LOORPLANE CURVE HITTING CEILING SMALLöLARGEàHUMP HITTING CEILING SMALL DOUBLEõLARGE DOUBLEõSMALL ",
  "TRIPLEõLARGE TRIPLEàLOOP HITTING CEILING SMALL SINGLEõLARGE SINGLEõSMALL DOUBLEõLARGE DOUBLEàWAV",
  "E HITTING CEILING SMALLõLARGEÌROTATION-FLOORPLANE SINGLE HITTING CEILINGàDOUBLE HITTING CEILINGà",
  "ALTERNATING HITTING CEILINGÌMOVEMENT-FLOORPLANE CURVE HITTING FLOOR SMALLôLARGEàHUMP HITTING FLO",
  "OR SMALL DOUBLEóLARGE DOUBLEóTRIPLE SMALL TRIPLEúLARGE TRIPLEàLOOP HITTING FLOOR SMALL SINGLEóLA",
  "RGE SINGLEóSMALL DOUBLEóLARGE DOUBLEàWAVE HITTING FLOOR SMALLóLARGEÌROTATION-FLOORPLANE SINGLE H",
  "ITTING FLOORàDOUBLE HITTING FLOORàALTERNATING HITTING FLOORÌMOVEMENT-FLOORPLANE CURVE SMALLæMEDI",
  "UMæLARGEëSTæCOMBINEDàHUMP SMALLàLOOP SMALLàWAVE SNAKEæMALLåLARGEÌROTATION-FLOORPLANE SINGLEàDOUB",
  "LEàALTERNATINGÌMOVEMENT-FLOORPLANE SHAKING PARALLELÕWALLPLANE ARM CIRCLE SMALL SINGLEêMEDIUM SIN",
  "GLEêSMALL DOUBLEêMEDIUM DOUBLEÕFLOORPLANE ARM CIRCLE HITTING WALL SMALL SINGLEøMEDIUM SINGLEøLAR",
  "GE SINGLEøSMALL DOUBLEøMEDIUM DOUBLEøLARGE DOUBLEÕWALLPLANE WRIST CIRCLE FRONT SINGLEòDOUBLEÕFLO",
  "ORPLANE WRIST CIRCLE HITTING WALL SINGLEúDOUBLEÕWALLPLANE FINGER CIRCLES SINGLEîDOUBLEÕFLOORPLAN",
  "E FINGER CIRCLES HITTING WALL SINGLEüDOUBLEÌDYNAMIC ARROWHEAD SMALLÞLARGEÔFASTÔSLOWÔTENSEÔRELAXE",
  "DÔSIMULTANEOUSà ALTERNATINGÔEVERY OTHER TIMEÔGRADUALÌHEADÐ RIMÑMOVEMENT-WALLPLANE STRAIGHTäTILTÚ",
  "FLOORPLANE STRAIGHTÚWALLPLANE CURVEÚFLOORPLANE CURVEÙ CIRCLEÌFACE DIRECTION POSITION NOSE FORWAR",
  "D TILTINGéUP OR DOWNó TILTINGÌEYEBROWS STRAIGHT UPÞNEUTRALÞDOWNÌDREAMY EYEBROWS NEUTRAL DOWNÜDOW",
  "N NEUTRALÜUP NEUTRALÜNEUTRAL UPÌFOREHEAD NEUTRALÕCONTACTÕWRINKLEDÌEYES OPENÑSQUEEZEDÑCLOSEDÏ BLI",
  "NK SINGLEÖMULTIPLEÏS HALF OPENÑWIDE OPENÑHALF CLOSEDÑWIDENING MOVEMENTÏ WINKÏLASHES UPÖDOWNÖFLUT",
  "TERINGÏGAZE-WALLPLANE STRAIGHTæ DOUBLEçALTERNATINGÔFLOORPLANE STRAIGHTç DOUBLEèALTERNATINGÔWALLP",
  "LANE CURVEDÔFLOORPLANE CURVEDÔWALLPLANE CIRCLINGÌCHEEKS PUFFEDÓNEUTRALÓSUCKEDÌTENSE CHEEKS HIGHÙ",
  "MIDDLEÙLOWÌEARSÌNOSE NEUTRALÑCONTACTÑWRINKLESÒIGGLESÌAIR BLOWING OUTÐSUCKING INÐBLOW SMALL ROTAT",
  "IONSÐSUCK SMALL ROTATIONSÌBREATH INHALEÓEXHALEÌMOUTH CLOSED NEUTRALÙFORWARDÙCONTACTÒSMILE× WRINK",
  "LEDØOPENÒFROWN× WRINKLEDØOPENÒOPEN CIRCLE×FORWARD×WRINKLED×OVALÛ WRINKLEDÜYAWN×RECTANGLEà WRINKL",
  "EDáYAWNÒKISSÖ FORWARD×WRINKLEDÒTENSE× FORWARDØSUCKEDÌLIPS PRESSED TOGETHERÏ LOWER OVER UPPERÐUPP",
  "ER OVER LOWERÌMOUTH CORNERSÒWRINKLES SINGLEÛDOUBLEÌTONGUE STICKING OUT FARÓLICKING LIPSÓTIP BETW",
  "EEN LIPS×TOUCHING INSIDE MOUTHÓINSIDE MOUTH RELAXEDÓMOVES AGAINST CHEEKÓCENTRE STICKING OUTÚINSI",
  "DE MOUTHÍEETHÑ MOVEMENTÒON TONGUEÛ MOVEMENTÕLIPSÙ MOVEMENTÒBITE LIPSÌMOVEMENT-WALLPLANE JAWÕFLOO",
  "RPLANE JAWÌNECKÌHAIRÌEXCITEMENTÌSHOULDER HIP SPINEÙPOSITIONSÌWALLPLANE SHOULDER HIP MOVEÌFLOORPL",
  "ANE SHOULDER HIP MOVEÌSHOULDER TILTING FROM WAISTÌTORSO-WALLPLANE STRAIGHT STRETCHÜCURVED BENDÒF",
  "LOORPLANE TWISTINGÌUPPER BODY TILTING FROM HIP JOINTSÌLIMB COMBINATIONÑLENGTH-1Ø2Ø3Ø4Ø5Ø6Ø7ÌFING",
  "ERÌLOCATION-WALLPLANE SPACEÕFLOORPLANE SPACEÔ HEIGHTÕWIDTHÕDEPTHÕHEAD NECKÕTORSOÕLIMBS DIGITSÌCO",
  "MMAÌFULL STOPÌSEMICOLONÌCOLONÌPARENTHESIS#1DA9BÌFILL MODIFIER-2Ú3Ú4Ú5Ú6#1DAA1ÌROTATION MODIFIER-",
  "2Þ3Þ4Þ5Þ6Þ7Þ8Þ9Þ10ß1ß2ß3ß4ß5ß6#1DF00ÀLATIN SMALL LETTER FENG DIGRAPH WITH TRILLÓREVERSED SCRIPT ",
  "GÆLETTER SMALL CAPITAL TURNED GÆSMALL LETTER REVERSED KÆLETTER SMALL CAPITAL L WITH BELTÆSMALL L",
  "ETTER LEZH WITH RETROFLEX HOOKÓTURNED Y WITH BELTÓREVERSED ENGÓTURNED R WITH LONG LEG AND RETROF",
  "LEX HOOKÔ WITH HOOK AND RETROFLEX HOOKÆLETTER RETROFLEX CLICK WITH RETROFLEX HOOKÆSMALL LETTER E",
  "SH WITH DOUBLE BARæ AND CURLÓTURNED T WITH CURLÆLETTER INVERTED GLOTTAL STOP WITH CURLÍSTRETCHED ",
  "C WITH CURLÎMALL CAPITAL TURNED KÆSMALL LETTER L WITH FISHHOOKÓDEZH DIGRAPH WITH PALATAL HOOKÓL ",
  "WITH BELT AND PALATAL HOOKÓENG WITH PALATAL HOOKÓTURNED R WITH PALATAL HOOKÓR WITH FISHHOOK AND ",
  "PALATAL HOOKÓTESH DIGRAPH WITH PALATAL HOOKÓEZH WITH PALATAL HOOKÓDEZH DIGRAPH WITH RETROFLEX HO",
  "OKÓI WITH STROKE AND RETROFLEX HOOKÓO WITH RETROFLEX HOOKÓTESH DIGRAPH WITH RETROFLEX HOOKÓC WIT",
  "H RETROFLEX HOOKÓS WITH CURL#1E000ÀCOMBINING GLAGOLITIC LETTER AZUÜBUKYÜVEDEÜGLAGOLIÜDOBROÜYESTU",
  "ÜZHIVETE#1E008ÝEMLJAÜIZHEÝNITIAL IZHEÝÜDJERVIÜKAKOÜLJUDIJEÜMYSLITEÜNASHIÜONUÜPOKOJIÜRITSIÜSLOVOÜ",
  "TVRIDOÜUKUÜFRITUÜHERU#1E01BÜSHTAÜTSIÜCHRIVIÜSHAÜYERUßIÝATI#1E023ÝUÜSMALL YUS#1E026ÜYOÜIOTATED SM",
  "ALL YUSÜBIG YUSÜIOTATED BIG YUSÜFITA#1E100ÀNYIAKENG PUACHUE HMONG LETTER MAÞTSAÞNTAÞTAÞHAÞNAÞXAÞ",
  "NKAÞCAÞLAÞSAÞZAÞNCAßTSAÞKAÞDAÞNYAßRAÞVAÞNTXAÞTXAÞFAÞRAÞQAÞYAÞNQAÞPAÞXYAÞNPAÞDLAÞNPLAÞHAHÞMLAÞPLA",
  "ÞGAÞRRAÞAßAÞIÞUÞOßOÞEßEÞW#1E130×TONE-BÜMÜJÜVÜSÜGÜD×SIGN FOR PERSONàTHINGàLOCATIONàANIMALàINVERTE",
  "BRATEÜXW XWØYLLABLE LENGTHENER#1E140×DIGIT ZEROÝONEÝTWOÞHREEÝFOURÞIVEÝSIXÞEVENÝEIGHTÝNINE#1E14E×",
  "LOGOGRAM NYAJ×CIRCLED CA#1E290ÀTOTO LETTER PAÌBAÌTAÌDAÌKAÌGAÌMAÌNAÍGAÌSAÌCHAÌYAÌWAÌJAÌHAÌRAÌLAÌI",
  "ÌBREATHY IÌIUÌBREATHY IUÌUÌEÌBREATHY EÌEOÌBREATHY EOÌOÌAEÌBREATHY AEÌAÅSIGN RISING TONE#1E2C0ÀWA",
  "NCHO LETTER AAÏÎBAÎCAÎDAÎGAÎYAÎPHAÎLAÎNAÎPAÎTAÏHAÎFAÎSAÏHAÎJAÎZAÎWAÎVAÎKAÎOÎAUÎRAÎMAÎKHAÎHAÎEÎIÎ",
  "NGAÎUÎLLHAÎTSAÏRAÎONGÎAANGÏNGÎINGÎONÎENÎAANÎNYAÎUENÎYIHÇTONE TUPÏNIÌKOIÏNIÇDIGIT ZEROÍONEÍTWOÎHR",
  "EEÍFOURÎIVEÍSIXÎEVENÍEIGHTÍNINE#1E2FFÇNGUN SIGN#1E7E0ÀETHIOPIC SYLLABLE HHYAÕUÕIÕAAÕEEÖÕO#1E7E8Ò",
  "GURAGE HHWAÒHHWIÕEEÖ#1E7EDÒGURAGE MWIÛEE#1E7F0ÙQWIÛEEÜÙBWIÛEEÙKWIÛEEÜÙGWIÛEEÜÙFWIÛEEÙPWIÛEE#1E80",
  "0ÀMENDE KIKAKUI SYLLABLE M001 KIÚ2 KAÚ3 KUÙ65 KEEÙ95 KEÙ76 KOOÙ48 KOØ179 KUAØ004 WIÚ5 WAÚ6 WUØ12",
  "6 WEEÙ18 WEÚ4 WOOØ045 WOØ194 WUIÙ43 WEIØ061 WVIÙ49 WVAØ139 WVEØ007 MINÚ8 MANÚ9 MUNÙ59 MENÙ94 MON",
  "Ø154 MUANÙ89 MUENØ010 BIÚ1 BAÚ2 BUØ150 BEEØ097 BEØ103 BOOÙ38 BOØ013 IÚ4 AÚ5 UØ163 EEÙ00 EÙ65 OOÙ",
  "47 OÙ37 EIÚ1 INÚ5 INÙ95 ANÙ78 ENØ019 SIÙ20 SAÚ1 SUØ162 SEEÙ16 SEÙ36 SOOØ079 SOØ196 SIAØ025 LIÚ6 ",
  "LAÚ7 LUÙ84 LEEÙ73 LEÙ54 LOOØ153 LOÙ10 LONG LEØ016 DIÚ7 DAÚ8 DUÙ89 DEEØ180 DOOÚ1 DOØ022 TIÚ3 TAÚ4 ",
  "TUÙ91 TEEÙ55 TEØ104 TOOØ069 TOÙ28 JIÚ9 JAÙ30 JUØ157 JEEÙ13 JEÙ60 JOOØ063 JOØ175 LONG JOØ031 YIÚ2 ",
  "YAÚ3 YUØ109 YEEØ080 YEØ141 YOOÙ21 YOØ034 FIÚ5 FAÚ6 FUÙ78 FEEÚ5 FEØ133 FOOØ088 FOØ197 FUAÙ01 FANØ",
  "037 NINÚ8 NANÚ9 NUNØ117 NENÙ69 NONÙ76 HIØ041 HAØ186 HUØ040 HEEÙ96 HEÙ42 HOOØ140 HOØ083 HEEIØ128 ",
  "HOOUØ053 HINØ130 HANØ087 HUNÙ52 HENØ193 HONØ046 HUANÙ90 NGGIÙ43 NGGAÙ82 NGGUØ115 NGGEEÙ46 NGGEÙ5",
  "6 NGGOOÙ20 NGGOÙ59 NGGAAÙ27 NGGUAØ086 LONG NGGEØ106 LONG NGGOOÙ83 LONG NGGOÙ55 GIÙ11 GAÙ68 GUÙ90 ",
  "GEEÙ66 GUEIÚ7 GUANÙ84 NGENØ057 NGONØ177 NGUANØ068 PIÙ99 PAÙ50 PUÙ81 PEEÙ51 PEØ102 POOØ066 POØ145 ",
  "MBIØ062 MBAØ122 MBUØ047 MBEEØ188 MBEEØ072 MBEØ172 MBOOÚ4 MBOÙ87 MBUUÙ61 LONG MBEÙ05 LONG MBOOÙ42 ",
  "LONG MBOÙ32 KPIØ092 KPAÙ74 KPUÙ44 KPEEØ108 KPEÙ12 KPOOÙ58 KPOÙ24 GBIØ056 GBAØ148 GBUØ093 GBEEØ10",
  "7 GBEØ071 GBOOÚ0 GBOØ171 RAÙ23 NDIÚ9 NDAÚ5 NDUÙ91 NDEEÙ19 NDEØ067 NDOOÚ4 NDOØ152 NJAÙ92 NJUÙ49 N",
  "JEEÙ34 NJOOÙ82 VIÚ5 VAÙ51 VUÙ73 VEEØ085 VEØ144 VOOØ077 VOØ164 NYINØ058 NYANØ170 NYUNØ098 NYENÙ60 ",
  "NYON#1E8C7ÎDIGIT ONEÔTWOÕHREEÔFOURÕIVEÔSIXÕEVENÔEIGHTÔNINEÎCOMBINING NUMBER TEENSáNSßHUNDREDSßTH",
  "OUSANDSàEN THOUSANDSßHUNDRED THOUSANDSßMILLIONS#1E900ÀADLAM CAPITAL LETTER ALIFÕDAALIÕLAAMÕMIIMÕ",
  "BAÕSINNYIIYHEÕPEÕBHEÕRAÕEÕFAÕIÕOÕDHAÕYHEÕWAWÕNUNÕKAFÕYAÕUÕJIIMÕCHIÕHAÕQAAFÕGAÕNYAÕTUÕNHAÕVAÕKHAÕ",
  "GBEÕZALÕKPOÕSHAÆSMALL LETTER ALIFÓDAALIÓLAAMÓMIIMÓBAÓSINNYIIYHEÓPEÓBHEÓRAÓEÓFAÓIÓOÓDHAÓYHEÓWAWÓN",
  "UNÓKAFÓYAÓUÓJIIMÓCHIÓHAÓQAAFÓGAÓNYAÓTUÓNHAÓVAÓKHAÓGBEÓZALÓKPOÓSHAÆALIF LENGTHENERÆVOWEL LENGTHEN",
  "ERÆGEMINATION MARKÆHAMZAÆCONSONANT MODIFIERÆGEMINATE CONSONANT MODIFIERÆNUKTAÇASALIZATION MARK#1",
  "E950ÆDIGIT ZEROÌONEÌTWOÍHREEÌFOURÍIVEÌSIXÍEVENÌEIGHTÌNINE#1E95EÆINITIAL EXCLAMATION MARKÎQUESTIO",
  "N MARK#1EC71ÀINDIC SIYAQ NUMBER ONEÓTWOÔHREEÓFOURÔIVEÓSIXÔEVENÓEIGHTÓNINEÓTENÔWENTYÔHIRTYÓFORTYÔ",
  "IFTYÓSIXTYÔEVENTYÓEIGHTYÓNINETYÓONE HUNDREDÓTWO HUNDREDÔHREE HUNDREDÓFOUR HUNDREDÔIVE HUNDREDÓSI",
  "X HUNDREDÔEVEN HUNDREDÓEIGHT HUNDREDÓNINE HUNDREDÓONE THOUSANDÓTWO THOUSANDÔHREE THOUSANDÓFOUR T",
  "HOUSANDÔIVE THOUSANDÓSIX THOUSANDÔEVEN THOUSANDÓEIGHT THOUSANDÓNINE THOUSANDÓTEN THOUSANDÔWENTY ",
  "THOUSANDÔHIRTY THOUSANDÓFORTY THOUSANDÔIFTY THOUSANDÓSIXTY THOUSANDÔEVENTY THOUSANDÓEIGHTY THOUS",
  "ANDÓNINETY THOUSANDÓLAKH×ANÌLAKH MARKÌNUMBER KARORØANÓPREFIXED ONEÜTWOÝHREEÜFOURÝIVEÜSIXÝEVENÜEI",
  "GHTÜNINEÌPLACEHOLDERÌFRACTION ONE QUARTERÙHALFÕTHREE QUARTERSÌRUPEE MARKÌNUMBER ALTERNATE ONEÝTW",
  "OÞEN THOUSANDÌALTERNATE LAKH MARK#1ED01ÀOTTOMAN SIYAQ NUMBER ONEÕTWOÖHREEÕFOURÖIVEÕSIXÖEVENÕEIGH",
  "TÕNINEÕTENÖWENTYÖHIRTYÕFORTYÖIFTYÕSIXTYÖEVENTYÕEIGHTYÕNINETYÕONE HUNDREDÕTWO HUNDREDÖHREE HUNDRE",
  "DÕFOUR HUNDREDÖIVE HUNDREDÕSIX HUNDREDÖEVEN HUNDREDÕEIGHT HUNDREDÕNINE HUNDREDÕONE THOUSANDÕTWO ",
  "THOUSANDÖHREE THOUSANDÕFOUR THOUSANDÖIVE THOUSANDÕSIX THOUSANDÖEVEN THOUSANDÕEIGHT THOUSANDÕNINE ",
  "THOUSANDÕTEN THOUSANDÖWENTY THOUSANDÖHIRTY THOUSANDÕFORTY THOUSANDÖIFTY THOUSANDÕSIXTY THOUSANDÖ",
  "EVENTY THOUSANDÕEIGHTY THOUSANDÕNINETY THOUSANDÎMARRATANÎALTERNATE NUMBER TWOàHREEßFOURàIVEßSIXà",
  "EVENßEIGHTßNINEßTENßFOUR HUNDREDßSIX HUNDREDßTWO THOUSANDàEN THOUSANDÎFRACTION ONE HALFÛSIXTH#1E",
  "E00ÀARABIC MATHEMATICAL ALEFÔBEHÔJEEMÔDAL#1EE05ÔWAWÔZAINÔHAHÔTAHÔYEHÔKAFÔLAMÔMEEMÔNOONÔSEENÔAINÔ",
  "FEHÔSADÔQAFÔREHÔSHEENÔTEHÕHEHÔKHAHÔTHALÔDADÔZAHÔGHAINÔDOTLESS BEHÜNOONÜFEHÜQAF#1EE21ÔINITIAL BEH",
  "ÜJEEM#1EE24ÜHEH#1EE27ÝAH#1EE29ÜYEHÜKAFÜLAMÜMEEMÜNOONÜSEENÜAINÜFEHÜSADÜQAF#1EE34ÜSHEENÜTEHÝHEHÜKH",
  "AH#1EE39ÜDAD#1EE3BÜGHAIN#1EE42ÔTAILED JEEM#1EE47ÛHAH#1EE49ÛYEH#1EE4BÛLAM#1EE4DÛNOONÛSEENÛAIN#1EE",
  "51ÛSADÛQAF#1EE54ÛSHEEN#1EE57ÛKHAH#1EE59ÛDAD#1EE5BÛGHAIN#1EE5DÛDOTLESS NOON#1EE5FãQAF#1EE61ÔSTRET",
  "CHED BEHÞJEEM#1EE64ÞHEH#1EE67ßAHÞTAHÞYEHÞKAF#1EE6CÞMEEMÞNOONÞSEENÞAINÞFEHÞSADÞQAF#1EE74ÞSHEENÞTE",
  "HßHEHÞKHAH#1EE79ÞDADÞZAHÞGHAINÞDOTLESS BEH#1EE7EæFEH#1EE80ÔLOOPED ALEFÛBEHÛJEEMÛDALÛHEHÛWAWÛZAIN",
  "ÛHAHÛTAHÛYEH#1EE8BÛLAMÛMEEMÛNOONÛSEENÛAINÛFEHÛSADÛQAFÛREHÛSHEENÛTEHÜHEHÛKHAHÛTHALÛDADÛZAHÛGHAIN#",
  "1EEA1ÔDOUBLE-STRUCK BEHâJEEMâDAL#1EEA5âWAWâZAINâHAHâTAHâYEH#1EEABâLAMâMEEMâNOONâSEENâAINâFEHâSAD",
  "âQAFâREHâSHEENâTEHãHEHâKHAHâTHALâDADâZAHâGHAIN#1EEF0ÔOPERATOR MEEM WITH HAH WITH TATWEELÝHAH WIT",
  "H DAL#1F000ÀMAHJONG TILE EAST WINDÍSOUTH WINDÍWEST WINDÍNORTH WINDÍRED DRAGONÍGREEN DRAGONÍWHITE ",
  "DRAGONÍONE OF CHARACTERSÍTWO OF CHARACTERSÎHREE OF CHARACTERSÍFOUR OF CHARACTERSÎIVE OF CHARACTE",
  "RSÍSIX OF CHARACTERSÎEVEN OF CHARACTERSÍEIGHT OF CHARACTERSÍNINE OF CHARACTERSÍONE OF BAMBOOSÍTW",
  "O OF BAMBOOSÎHREE OF BAMBOOSÍFOUR OF BAMBOOSÎIVE OF BAMBOOSÍSIX OF BAMBOOSÎEVEN OF BAMBOOSÍEIGHT ",
  "OF BAMBOOSÍNINE OF BAMBOOSÍONE OF CIRCLESÍTWO OF CIRCLESÎHREE OF CIRCLESÍFOUR OF CIRCLESÎIVE OF ",
  "CIRCLESÍSIX OF CIRCLESÎEVEN OF CIRCLESÍEIGHT OF CIRCLESÍNINE OF CIRCLESÍPLUMÍORCHIDÍBAMBOOÍCHRYS",
  "ANTHEMUMÍSPRINGÎUMMERÍAUTUMNÍWINTERÍJOKERÍBACK#1F030ÀDOMINO TILE HORIZONTAL BACKÖ-00-00Û1Û2Û3Û4Û",
  "5Û6Ø1-00Û1Û2Û3Û4Û5Û6Ø2-00Û1Û2Û3Û4Û5Û6Ø3-00Û1Û2Û3Û4Û5Û6Ø4-00Û1Û2Û3Û4Û5Û6Ø5-00Û1Û2Û3Û4Û5Û6Ø6-00Û1Û",
  "2Û3Û4Û5Û6ÌVERTICAL BACKÔ-00-00Ù1Ù2Ù3Ù4Ù5Ù6Ö1-00Ù1Ù2Ù3Ù4Ù5Ù6Ö2-00Ù1Ù2Ù3Ù4Ù5Ù6Ö3-00Ù1Ù2Ù3Ù4Ù5Ù6Ö4-",
  "00Ù1Ù2Ù3Ù4Ù5Ù6Ö5-00Ù1Ù2Ù3Ù4Ù5Ù6Ö6-00Ù1Ù2Ù3Ù4Ù5Ù6#1F0A0ÀPLAYING CARD BACKÍACE OF SPADESÍTWO OF SP",
  "ADESÎHREE OF SPADESÍFOUR OF SPADESÎIVE OF SPADESÍSIX OF SPADESÎEVEN OF SPADESÍEIGHT OF SPADESÍNI",
  "NE OF SPADESÍTEN OF SPADESÍJACK OF SPADESÍKNIGHT OF SPADESÍQUEEN OF SPADESÍKING OF SPADES#1F0B1Í",
  "ACE OF HEARTSÍTWO OF HEARTSÎHREE OF HEARTSÍFOUR OF HEARTSÎIVE OF HEARTSÍSIX OF HEARTSÎEVEN OF HE",
  "ARTSÍEIGHT OF HEARTSÍNINE OF HEARTSÍTEN OF HEARTSÍJACK OF HEARTSÍKNIGHT OF HEARTSÍQUEEN OF HEART",
  "SÍKING OF HEARTSÍRED JOKER#1F0C1ÍACE OF DIAMONDSÍTWO OF DIAMONDSÎHREE OF DIAMONDSÍFOUR OF DIAMON",
  "DSÎIVE OF DIAMONDSÍSIX OF DIAMONDSÎEVEN OF DIAMONDSÍEIGHT OF DIAMONDSÍNINE OF DIAMONDSÍTEN OF DI",
  "AMONDSÍJACK OF DIAMONDSÍKNIGHT OF DIAMONDSÍQUEEN OF DIAMONDSÍKING OF DIAMONDSÍBLACK JOKER#1F0D1Í",
  "ACE OF CLUBSÍTWO OF CLUBSÎHREE OF CLUBSÍFOUR OF CLUBSÎIVE OF CLUBSÍSIX OF CLUBSÎEVEN OF CLUBSÍEI",
  "GHT OF CLUBSÍNINE OF CLUBSÍTEN OF CLUBSÍJACK OF CLUBSÍKNIGHT OF CLUBSÍQUEEN OF CLUBSÍKING OF CLU",
  "BSÍWHITE JOKERÍFOOLÍTRUMP-1Ó2Ó3Ó4Ó5Ó6Ó7Ó8Ó9Ó10Ô1Ô2Ô3Ô4Ô5Ô6Ô7Ô8Ô9Ó20Ô1#1F100ÀDIGIT ZERO FULL STOP",
  "ËCOMMAÆONE COMMAÆTWO COMMAÇHREE COMMAÆFOUR COMMAÇIVE COMMAÆSIX COMMAÇEVEN COMMAÆEIGHT COMMAÆNINE ",
  "COMMAÂNGBAT CIRCLED SANS-SERIF DIGIT ZEROÈNEGATIVE CIRCLED SANS-SERIF DIGIT ZEROÀCIRCLED ZERO WI",
  "TH SLASHÈANTICLOCKWISE ARROWÈDOLLAR SIGN WITH OVERLAID BACKSLASHÀPARENTHESIZED LATIN CAPITAL LET",
  "TER AãBãCãDãEãFãGãHãIãJãKãLãMãNãOãPãQãRãSãTãUãVãWãXãYãZÀTORTOISE SHELL BRACKETED LATIN CAPITAL L",
  "ETTER SÀCIRCLED ITALIC LATIN CAPITAL LETTER CäRÈCDÈWZÁOPYLEFT SYMBOLÀSQUARED LATIN CAPITAL LETTE",
  "R AÝBÝCÝDÝEÝFÝGÝHÝIÝJÝKÝLÝMÝNÝOÝPÝQÝRÝSÝTÝUÝVÝWÝXÝYÝZÈHVÈMVÈSDÉSÈPPVÈWCÀNEGATIVE CIRCLED LATIN C",
  "APITAL LETTER AæBæCæDæEæFæGæHæIæJæKæLæMæNæOæPæQæRæSæTæUæVæWæXæYæZÀRAISED MC SIGNÈD SIGNÈR SIGNÀC",
  "IRCLED CCÉ WITH OVERLAID BACKSLASHÈHUMAN FIGUREÀNEGATIVE SQUARED LATIN CAPITAL LETTER AæBæCæDæEæ",
  "FæGæHæIæJæKæLæMæNæOæPæQæRæSæTæUæVæWæXæYæZÀCROSSED NEGATIVE SQUARED LATIN CAPITAL LETTER PÀNEGATI",
  "VE SQUARED ICÑPAÑSAÑABÑWCÀSQUARE DJÆD CLÉOOLÈFREEÈIDÈNEWÉGÈOKÈSOSÈUP WITH EXCLAMATION MARKÈVSÈTH",
  "REE DÈSECOND SCREENÈTWO KÈFOUR KÈEIGHT KÈFIVE POINT ONEÈSEVEN POINT ONEÈTWENTY-TWO POINT TWOÈSIX",
  "TY PÈONE HUNDRED TWENTY PÈLATIN SMALL LETTER DÈHCÉDRÉI-RESÈLOSSLESSÈSHVÈUHDÈVODÀMASK WORK SYMBOL",
  "#1F1E6ÀREGIONAL INDICATOR SYMBOL LETTER AáBáCáDáEáFáGáHáIáJáKáLáMáNáOáPáQáRáSáTáUáVáWáXáYáZÀSQUA",
  "RE HIRAGANA HOKAÆD KATAKANA KOKOÑSA#1F210ÈCJK UNIFIED IDEOGRAPH-624BÞ5B57ß3CCÈKATAKANA DEÈCJK UN",
  "IFIED IDEOGRAPH-4E8CÞ591AÞ89E3Þ5929Þ4EA4Þ6620Þ7121Þ6599Þ524DßF8Cß18DÞ65B0Þ521DÞ7D42ß51FÞ8CA9Þ58F",
  "0ß439Þ6F14ß295ß355Þ4E00á9Þ904AÞ5DE6Þ4E2DÞ53F3Þ6307Þ8D70Þ6253Þ7981ßA7AÞ5408Þ6E80ß709á8Þ7533Þ5272ß",
  "5B6Þ914D#1F240ÀTORTOISE SHELL BRACKETED CJK UNIFIED IDEOGRAPH-672Cï4E09ñ8Cï5B89ï70B9ï6253ï76D7ï5",
  "2DDï6557#1F250ÀCIRCLED IDEOGRAPH ADVANTAGEÓCCEPT#1F260ÀROUNDED SYMBOL FOR FUÓLUÓSHOUÓXIÓSHUANGXI",
  "ÓCAI#1F300ÀCYCLONEÀFOGGYÀCLOSED UMBRELLAÀNIGHT WITH STARSÀSUNRISE OVER MOUNTAINSÇÀCITYSCAPE AT D",
  "USKÀSUNSET OVER BUILDINGSÀRAINBOWÀBRIDGE AT NIGHTÀWATER WAVEÀVOLCANOÀMILKY WAYÀEARTH GLOBE EUROP",
  "E-AFRICAÌAMERICASÍSIA-AUSTRALIAÀGLOBE WITH MERIDIANSÀNEW MOON SYMBOLÀWAXING CRESCENT MOON SYMBOL",
  "ÀFIRST QUARTER MOON SYMBOLÀWAXING GIBBOUS MOON SYMBOLÀFULL MOON SYMBOLÀWANING GIBBOUS MOON SYMBO",
  "LÀLAST QUARTER MOON SYMBOLÀWANING CRESCENT MOON SYMBOLÀCRESCENT MOONÀNEW MOON WITH FACEÀFIRST QU",
  "ARTER MOON WITH FACEÀLAST QUARTER MOON WITH FACEÀFULL MOON WITH FACEÀSUN WITH FACEÀGLOWING STARÀ",
  "SHOOTING STARÀTHERMOMETERÀBLACK DROPLETÀWHITE SUNÉ WITH SMALL CLOUDÊBEHIND CLOUDÖ WITH RAINÀCLOU",
  "D WITH RAINËSNOWËLIGHTNINGËTORNADOÀFOGÀWIND BLOWING FACEÀHOT DOGÀTACOÀBURRITOÀCHESTNUTÀSEEDLINGÀ",
  "EVERGREEN TREEÀDECIDUOUS TREEÀPALM TREEÀCACTUSÀHOT PEPPERÀTULIPÀCHERRY BLOSSOMÀROSEÀHIBISCUSÀSUN",
  "FLOWERÀBLOSSOMÀEAR OF MAIZEÇRICEÀHERBÀFOUR LEAF CLOVERÀMAPLE LEAFÀFALLEN LEAFÀLEAF FLUTTERING IN ",
  "WINDÀMUSHROOMÀTOMATOÀAUBERGINEÀGRAPESÀMELONÀWATERMELONÀTANGERINEÀLEMONÀBANANAÀPINEAPPLEÀRED APPL",
  "EÀGREEN APPLEÀPEARÃCHÀCHERRIESÀSTRAWBERRYÀHAMBURGERÀSLICE OF PIZZAÀMEAT ON BONEÀPOULTRY LEGÀRICE ",
  "CRACKERÅBALLÀCOOKED RICEÁURRY AND RICEÀSTEAMING BOWLÁPAGHETTIÀBREADÀFRENCH FRIESÀROASTED SWEET P",
  "OTATOÀDANGOÀODENÀSUSHIÀFRIED SHRIMPÁISH CAKE WITH SWIRL DESIGNÀSOFT ICE CREAMÁHAVED ICEÀICE CREA",
  "MÀDOUGHNUTÀCOOKIEÁHOCOLATE BARÁANDYÀLOLLIPOPÀCUSTARDÀHONEY POTÀSHORTCAKEÀBENTO BOXÀPOT OF FOODÀC",
  "OOKINGÀFORK AND KNIFEÀTEACUP WITHOUT HANDLEÀSAKE BOTTLE AND CUPÀWINE GLASSÀCOCKTAIL GLASSÀTROPIC",
  "AL DRINKÀBEER MUGÀCLINKING BEER MUGSÀBABY BOTTLEÀFORK AND KNIFE WITH PLATEÀBOTTLE WITH POPPING C",
  "ORKÀPOPCORNÀRIBBONÀWRAPPED PRESENTÀBIRTHDAY CAKEÀJACK-O-LANTERNÀCHRISTMAS TREEÀFATHER CHRISTMASÁ",
  "IREWORKSÈ SPARKLERÀBALLOONÀPARTY POPPERÀCONFETTI BALLÀTANABATA TREEÀCROSSED FLAGSÀPINE DECORATIO",
  "NÀJAPANESE DOLLSÀCARP STREAMERÀWIND CHIMEÀMOON VIEWING CEREMONYÀSCHOOL SATCHELÀGRADUATION CAPÀHE",
  "ART WITH TIP ON THE LEFTÀBOUQUET OF FLOWERSÀMILITARY MEDALÀREMINDER RIBBONÀMUSICAL KEYBOARD WITH ",
  "JACKSÀSTUDIO MICROPHONEÀLEVEL SLIDERÀCONTROL KNOBSÀBEAMED ASCENDING MUSICAL NOTESÇDESCENDING MUS",
  "ICAL NOTESÀFILM FRAMESÀADMISSION TICKETSÀCAROUSEL HORSEÀFERRIS WHEELÀROLLER COASTERÀFISHING POLE ",
  "AND FISHÀMICROPHONEÁOVIE CAMERAÀCINEMAÀHEADPHONEÀARTIST PALETTEÀTOP HATÀCIRCUS TENTÀTICKETÀCLAPP",
  "ER BOARDÀPERFORMING ARTSÀVIDEO GAMEÀDIRECT HITÀSLOT MACHINEÀBILLIARDSÀGAME DIEÀBOWLINGÀFLOWER PL",
  "AYING CARDSÀMUSICAL NOTEÂLTIPLE MUSICAL NOTESÀSAXOPHONEÀGUITARÀMUSICAL KEYBOARDÀTRUMPETÀVIOLINÀM",
  "USICAL SCOREÀRUNNING SHIRT WITH SASHÀTENNIS RACQUET AND BALLÀSKI AND SKI BOOTÀBASKETBALL AND HOO",
  "PÀCHEQUERED FLAGÀSNOWBOARDERÀRUNNERÀSURFERÁPORTS MEDALÀTROPHYÀHORSE RACINGÀAMERICAN FOOTBALLÀRUG",
  "BY FOOTBALLÀSWIMMERÀWEIGHT LIFTERÀGOLFERÀRACING MOTORCYCLEÇCARÀCRICKET BAT AND BALLÀVOLLEYBALLÀF",
  "IELD HOCKEY STICK AND BALLÀICE HOCKEY STICK AND PUCKÀTABLE TENNIS PADDLE AND BALLÀSNOW CAPPED MO",
  "UNTAINÀCAMPINGÀBEACH WITH UMBRELLAÁUILDING CONSTRUCTIONÀHOUSE BUILDINGSÀCITYSCAPEÀDERELICT HOUSE ",
  "BUILDINGÀCLASSICAL BUILDINGÀDESERTÆ ISLANDÀNATIONAL PARKÀSTADIUMÀHOUSE BUILDINGÆWITH GARDENÀOFFI",
  "CE BUILDINGÀJAPANESE POST OFFICEÀEUROPEAN POST OFFICEÀHOSPITALÀBANKÀAUTOMATED TELLER MACHINEÀHOT",
  "ELÀLOVE HOTELÀCONVENIENCE STOREÀSCHOOLÀDEPARTMENT STOREÀFACTORYÀIZAKAYA LANTERNÀJAPANESE CASTLEÀ",
  "EUROPEAN CASTLEÀWHITE PENNANTÀBLACK PENNANTÀWAVING WHITE FLAGÇBLACK FLAGÀROSETTEÀBLACK ROSETTEÀL",
  "ABELÀBADMINTON RACQUET AND SHUTTLECOCKÁOW AND ARROWÀAMPHORAÀEMOJI MODIFIER FITZPATRICK TYPE-1-2à",
  "3à4à5à6ÀRATÀMOUSEÀOXÀWATER BUFFALOÀCOWÀTIGERÀLEOPARDÀRABBITÀCATÀDRAGONÀCROCODILEÀWHALEÀSNAILÃKEÀ",
  "HORSEÀRAMÀGOATÀSHEEPÀMONKEYÀROOSTERÀCHICKENÀDOGÀPIGÀBOARÀELEPHANTÀOCTOPUSÀSPIRAL SHELLÀBUGÀANTÀH",
  "ONEYBEEÀLADY BEETLEÀFISHÀTROPICAL FISHÀBLOWFISHÀTURTLEÀHATCHING CHICKÀBABY CHICKÀFRONT-FACING BA",
  "BY CHICKÀBIRDÀPENGUINÀKOALAÀPOODLEÀDROMEDARY CAMELÀBACTRIAN CAMELÀDOLPHINÀMOUSE FACEÀCOW FACEÀTI",
  "GER FACEÀRABBIT FACEÀCAT FACEÀDRAGON FACEÀSPOUTING WHALEÀHORSE FACEÀMONKEY FACEÀDOG FACEÀPIG FAC",
  "EÀFROG FACEÀHAMSTER FACEÀWOLF FACEÀBEAR FACEÀPANDA FACEÁIG NOSEÁAW PRINTSÀCHIPMUNKÀEYESÃÁARÀNOSE",
  "ÀMOUTHÀTONGUEÀWHITE UP POINTING BACKHAND INDEXÆDOWN POINTING BACKHAND INDEXÆLEFT POINTING BACKHA",
  "ND INDEXÆRIGHT POINTING BACKHAND INDEXÀFISTED HAND SIGNÀWAVING HAND SIGNÀOK HAND SIGNÀTHUMBS UP ",
  "SIGNÇDOWN SIGNÀCLAPPING HANDS SIGNÀOPEN HANDS SIGNÀCROWNÀWOMANS HATÀEYEGLASSESÀNECKTIEÀT-SHIRTÀJ",
  "EANSÀDRESSÀKIMONOÀBIKINIÀWOMANS CLOTHESÀPURSEÀHANDBAGÀPOUCHÀMANS SHOEÀATHLETIC SHOEÀHIGH-HEELED ",
  "SHOEÀWOMANS SANDALÇBOOTSÀFOOTPRINTSÀBUST IN SILHOUETTEÄS IN SILHOUETTEÁOYÀGIRLÀMANÀWOMANÀFAMILYÀ",
  "MAN AND WOMAN HOLDING HANDSÀTWO MEN HOLDING HANDSÄWOMEN HOLDING HANDSÀPOLICE OFFICERÀWOMAN WITH ",
  "BUNNY EARSÀBRIDE WITH VEILÀPERSON WITH BLOND HAIRÀMAN WITH GUA PI MAOÉTURBANÀOLDER MANÆWOMANÀBAB",
  "YÀCONSTRUCTION WORKERÀPRINCESSÀJAPANESE OGREÉGOBLINÀGHOSTÀBABY ANGELÀEXTRATERRESTRIAL ALIENÀALIE",
  "N MONSTERÀIMPÀSKULLÀINFORMATION DESK PERSONÀGUARDSMANÀDANCERÀLIPSTICKÀNAIL POLISHÀFACE MASSAGEÀH",
  "AIRCUTÀBARBER POLEÀSYRINGEÀPILLÀKISS MARKÀLOVE LETTERÀRINGÀGEM STONEÀKISSÀBOUQUETÀCOUPLE WITH HE",
  "ARTÀWEDDINGÀBEATING HEARTÁROKEN HEARTÀTWO HEARTSÀSPARKLING HEARTÀGROWING HEARTÀHEART WITH ARROWÀ",
  "BLUE HEARTÀGREEN HEARTÀYELLOW HEARTÀPURPLE HEARTÀHEART WITH RIBBONÀREVOLVING HEARTSÀHEART DECORA",
  "TIONÀDIAMOND SHAPE WITH A DOT INSIDEÀELECTRIC LIGHT BULBÀANGER SYMBOLÀBOMBÀSLEEPING SYMBOLÀCOLLI",
  "SION SYMBOLÀSPLASHING SWEAT SYMBOLÀDROPLETÁASH SYMBOLÀPILE OF POOÀFLEXED BICEPSÀDIZZY SYMBOLÀSPE",
  "ECH BALLOONÀTHOUGHT BALLOONÀWHITE FLOWERÀHUNDRED POINTS SYMBOLÀMONEY BAGÀCURRENCY EXCHANGEÀHEAVY ",
  "DOLLAR SIGNÀCREDIT CARDÀBANKNOTE WITH YEN SIGNÎDOLLAR SIGNÎEURO SIGNÎPOUND SIGNÀMONEY WITH WINGS",
  "ÀCHART WITH UPWARDS TREND AND YEN SIGNÀSEATÀPERSONAL COMPUTERÀBRIEFCASEÀMINIDISCÀFLOPPY DISKÀOPT",
  "ICAL DISCÀDVDÀFILE FOLDERÀOPEN FILE FOLDERÀPAGE WITH CURLÅFACING UPÀCALENDARÀTEAR-OFF CALENDARÀC",
  "ARD INDEXÁHART WITH UPWARDS TRENDËDOWNWARDS TRENDÀBAR CHARTÀCLIPBOARDÀPUSHPINÀROUND PUSHPINÀPAPE",
  "RCLIPÀSTRAIGHT RULERÀTRIANGULAR RULERÀBOOKMARK TABSÀLEDGERÀNOTEBOOKÈ WITH DECORATIVE COVERÀCLOSE",
  "D BOOKÀOPEN BOOKÀGREEN BOOKÀBLUE BOOKÀORANGE BOOKÀBOOKSÀNAME BADGEÀSCROLLÀMEMOÀTELEPHONE RECEIVE",
  "RÀPAGERÀFAX MACHINEÀSATELLITE ANTENNAÀPUBLIC ADDRESS LOUDSPEAKERÀCHEERING MEGAPHONEÀOUTBOX TRAYÀ",
  "INBOX TRAYÀPACKAGEÀE-MAIL SYMBOLÀINCOMING ENVELOPEÀENVELOPE WITH DOWNWARDS ARROW ABOVEÀCLOSED MA",
  "ILBOX WITH LOWERED FLAGÔRAISED FLAGÀOPEN MAILBOX WITH RAISED FLAGÒLOWERED FLAGÀPOSTBOXÄAL HORNÀN",
  "EWSPAPERÀMOBILE PHONEÌ WITH RIGHTWARDS ARROW AT LEFTÀVIBRATION MODEÀMOBILE PHONE OFFÀNO MOBILE P",
  "HONESÀANTENNA WITH BARSÀCAMERAÆ WITH FLASHÀVIDEO CAMERAÀTELEVISIONÀRADIOÀVIDEOCASSETTEÀFILM PROJ",
  "ECTORÀPORTABLE STEREOÁRAYER BEADSÀTWISTED RIGHTWARDS ARROWSÀCLOCKWISE RIGHTWARDS AND LEFTWARDS O",
  "PEN CIRCLE ARROWSõ WITH CIRCLED ONE OVERLAYÊDOWNWARDS AND UPWARDS OPEN CIRCLE ARROWSÀANTICLOCKWI",
  "SE DOWNWARDS AND UPWARDS OPEN CIRCLE ARROWSÀLOW BRIGHTNESS SYMBOLÀHIGH BRIGHTNESS SYMBOLÀSPEAKER ",
  "WITH CANCELLATION STROKEÇÇ WITH ONE SOUND WAVEÍTHREE SOUND WAVESÀBATTERYÀELECTRIC PLUGÀLEFT-POIN",
  "TING MAGNIFYING GLASSÀRIGHT-POINTING MAGNIFYING GLASSÀLOCK WITH INK PENÀCLOSED LOCK WITH KEYÀKEY",
  "ÀLOCKÀOPEN LOCKÀBELLÄ WITH CANCELLATION STROKEÁOOKMARKÀLINK SYMBOLÀRADIO BUTTONÀBACK WITH LEFTWA",
  "RDS ARROW ABOVEÀEND WITH LEFTWARDS ARROW ABOVEÀON WITH EXCLAMATION MARK WITH LEFT RIGHT ARROW AB",
  "OVEÀSOON WITH RIGHTWARDS ARROW ABOVEÀTOP WITH UPWARDS ARROW ABOVEÀNO ONE UNDER EIGHTEEN SYMBOLÀK",
  "EYCAP TENÀINPUT SYMBOL FOR LATIN CAPITAL LETTERS×SMALL LETTERSÑNUMBERSÑSYMBOLSÑLATIN LETTERSÀFIR",
  "EÀELECTRIC TORCHÀWRENCHÀHAMMERÀNUT AND BOLTÀHOCHOÀPISTOLÀMICROSCOPEÀTELESCOPEÀCRYSTAL BALLÀSIX P",
  "OINTED STAR WITH MIDDLE DOTÀJAPANESE SYMBOL FOR BEGINNERÀTRIDENT EMBLEMÀBLACK SQUARE BUTTONÀWHIT",
  "E SQUARE BUTTONÀLARGE RED CIRCLEÆBLUE CIRCLEÆORANGE DIAMONDÆBLUE DIAMONDÀSMALL ORANGE DIAMONDÆBL",
  "UE DIAMONDÀUP-POINTING RED TRIANGLEÀDOWN-POINTING RED TRIANGLEÀUP-POINTING SMALL RED TRIANGLEÀDO",
  "WN-POINTING SMALL RED TRIANGLEÀLOWER RIGHT SHADOWED WHITE CIRCLEÀUPPER RIGHT SHADOWED WHITE CIRC",
  "LEÀCIRCLED CROSS POMMEEÁROSS POMMEE WITH HALF-CIRCLE BELOWÌÀNOTCHED LEFT SEMICIRCLE WITH THREE D",
  "OTSÈRIGHT SEMICIRCLE WITH THREE DOTSÀSYMBOL FOR MARKS CHAPTERÀWHITE LATIN CROSSÀHEAVY LATIN CROS",
  "SÀCELTIC CROSSÀOM SYMBOLÀDOVE OF PEACEÀKAABAÀMOSQUEÀSYNAGOGUEÀMENORAH WITH NINE BRANCHESÀBOWL OF ",
  "HYGIEIAÀCLOCK FACE ONE OCLOCKËTWO OCLOCKÌHREE OCLOCKËFOUR OCLOCKÌIVE OCLOCKËSIX OCLOCKÌEVEN OCLO",
  "CKËEIGHT OCLOCKËNINE OCLOCKËTEN OCLOCKËELEVEN OCLOCKËTWELVE OCLOCKËONE-THIRTYËTWO-THIRTYÌHREE-TH",
  "IRTYËFOUR-THIRTYÌIVE-THIRTYËSIX-THIRTYÌEVEN-THIRTYËEIGHT-THIRTYËNINE-THIRTYËTEN-THIRTYËELEVEN-TH",
  "IRTYËTWELVE-THIRTYÀRIGHT SPEAKERÍ WITH ONE SOUND WAVEÓTHREE SOUND WAVESÀBULLHORNÈ WITH SOUND WAV",
  "ESÀRINGING BELLÀBOOKÀCANDLEÀMANTELPIECE CLOCKÀBLACK SKULL AND CROSSBONESÀNO PIRACYÀHOLEÀMAN IN B",
  "USINESS SUIT LEVITATINGÀSLEUTH OR SPYÀDARK SUNGLASSESÀSPIDERÆ WEBÀJOYSTICKÀMAN DANCINGÀLEFT HAND ",
  "TELEPHONE RECEIVERÀTELEPHONE RECEIVER WITH PAGEÀRIGHT HAND TELEPHONE RECEIVERÀWHITE TOUCHTONE TE",
  "LEPHONEÀBLACK TOUCHTONE TELEPHONEÀTELEPHONE ON TOP OF MODEMÀCLAMSHELL MOBILE PHONEÀBACK OF ENVEL",
  "OPEÀSTAMPED ENVELOPEÀENVELOPE WITH LIGHTNINGÀFLYING ENVELOPEÀPEN OVER STAMPED ENVELOPEÀLINKED PA",
  "PERCLIPSÀBLACK PUSHPINÀLOWER LEFT PENCILËBALLPOINT PENËFOUNTAIN PENËPAINTBRUSHËCRAYONÁEFT WRITIN",
  "G HANDÀTURNED OK HAND SIGNÀRAISED HAND WITH FINGERS SPLAYEDÁEVERSED RAISED HAND WITH FINGERS SPL",
  "AYEDÉTHUMBS UP SIGNÐDOWN SIGNÉVICTORY HANDÉHAND WITH MIDDLE FINGER EXTENDEDÁAISED HAND WITH PART ",
  "BETWEEN MIDDLE AND RING FINGERSÀWHITE DOWN POINTING LEFT HAND INDEXÀSIDEWAYS WHITE LEFT POINTING ",
  "INDEXÏRIGHT POINTING INDEXÉBLACK LEFT POINTING INDEXÏRIGHT POINTING INDEXÀBLACK LEFT POINTING BA",
  "CKHAND INDEXÆRIGHT POINTING BACKHAND INDEXÀSIDEWAYS WHITE UP POINTING INDEXÏDOWN POINTING INDEXÉ",
  "BLACK UP POINTING INDEXÏDOWN POINTING INDEXÀBLACK UP POINTING BACKHAND INDEXÆDOWN POINTING BACKH",
  "AND INDEXÆHEARTÀDESKTOP COMPUTERÀKEYBOARD AND MOUSEÀTHREE NETWORKED COMPUTERSÀPRINTERÁOCKET CALC",
  "ULATORÀBLACK HARD SHELL FLOPPY DISKÀWHITE HARD SHELL FLOPPY DISKÀSOFT SHELL FLOPPY DISKÀTAPE CAR",
  "TRIDGEÀWIRED KEYBOARDÀONE BUTTON MOUSEÀTWO BUTTON MOUSEÁHREE BUTTON MOUSEÁRACKBALLÀOLD PERSONAL ",
  "COMPUTERÀHARD DISKÀSCREENÀPRINTER ICONÀFAX ICONÀOPTICAL DISC ICONÀDOCUMENT WITH TEXTÒ AND PICTUR",
  "EÎPICTUREÀFRAME WITH PICTUREËTILESËAN XÀBLACK FOLDERÀFOLDERÀOPEN FOLDERÀCARD INDEX DIVIDERSÅFILE ",
  "BOXÀFILE CABINETÀEMPTY NOTEÊ PAGEÍDÀNOTEÄ PAGEÇDÀEMPTY DOCUMENTÆPAGEÊSÀDOCUMENTÀPAGEÄSÀWASTEBASK",
  "ETÀSPIRAL NOTE PADÇCALENDAR PADÀDESKTOP WINDOWÀMINIMIZEÁAXIMIZEÀOVERLAPÀCLOCKWISE RIGHT AND LEFT ",
  "SEMICIRCLE ARROWSÁANCELLATION XÀINCREASE FONT SIZE SYMBOLÀDECREASE FONT SIZE SYMBOLÀCOMPRESSIONÀ",
  "OLD KEYÀROLLED-UP NEWSPAPERÀPAGE WITH CIRCLED TEXTÀSTOCK CHARTÀDAGGER KNIFEÀLIPSÀSPEAKING HEAD I",
  "N SILHOUETTEÀTHREE RAYS ABOVEËBELOWËLEFTËRIGHTÀLEFT SPEECH BUBBLEÀRIGHT SPEECH BUBBLEÀTWO SPEECH ",
  "BUBBLESÁHREE SPEECH BUBBLESÀLEFT THOUGHT BUBBLEÀRIGHT THOUGHT BUBBLEÀLEFT ANGER BUBBLEÀRIGHT ANG",
  "ER BUBBLEÀMOOD BUBBLEÀLIGHTNING MOOD BUBBLEÎÀBALLOT BOX WITH BALLOTÇSCRIPT XÇBOX WITH SCRIPT XÉL",
  "D SCRIPT XÉX WITH BOLD SCRIPT XÀLIGHT CHECK MARKÀBALLOT BOX WITH BOLD CHECKÀWORLD MAPÀMOUNT FUJI",
  "ÀTOKYO TOWERÀSTATUE OF LIBERTYÁILHOUETTE OF JAPANÀMOYAIÀGRINNING FACEÍ WITH SMILING EYESÀFACE WI",
  "TH TEARS OF JOYÀSMILING FACE WITH OPEN MOUTHÜ AND SMILING EYESáCOLD SWEATáTIGHTLY-CLOSED EYESÒHA",
  "LOÓORNSÀWINKING FACEÀSMILING FACE WITH SMILING EYESÀFACE SAVOURING DELICIOUS FOODÀRELIEVED FACEÀ",
  "SMILING FACE WITH HEART-SHAPED EYESÒSUNGLASSESÃRKING FACEÀNEUTRAL FACEÀEXPRESSIONLESS FACEÀUNAMU",
  "SED FACEÀFACE WITH COLD SWEATÀPENSIVE FACEÀCONFUSED FACEÄOUNDED FACEÀKISSING FACEÀFACE THROWING ",
  "A KISSÀKISSING FACE WITH SMILING EYESÒCLOSED EYESÀFACE WITH STUCK-OUT TONGUEÚ AND WINKING EYEßTI",
  "GHTLY-CLOSED EYESÀDISAPPOINTED FACEÀWORRIED FACEÀANGRY FACEÀPOUTING FACEÀCRYING FACEÀPERSEVERING ",
  "FACEÀFACE WITH LOOK OF TRIUMPHÀDISAPPOINTED BUT RELIEVED FACEÀFROWNING FACE WITH OPEN MOUTHÀANGU",
  "ISHED FACEÀFEARFUL FACEÀWEARY FACEÀSLEEPY FACEÀTIRED FACEÀGRIMACING FACEÀLOUDLY CRYING FACEÀFACE ",
  "WITH OPEN MOUTHÀHUSHED FACEÀFACE WITH OPEN MOUTH AND COLD SWEATÅSCREAMING IN FEARÀASTONISHED FAC",
  "EÀFLUSHED FACEÀSLEEPING FACEÀDIZZY FACEÀFACE WITHOUT MOUTHÉ MEDICAL MASKÀGRINNING CAT FACE WITH ",
  "SMILING EYESÀCAT FACE WITH TEARS OF JOYÀSMILING CAT FACE WITH OPEN MOUTHÖHEART-SHAPED EYESÀCAT F",
  "ACE WITH WRY SMILEÀKISSING CAT FACE WITH CLOSED EYESÀPOUTING CAT FACEÀCRYING CAT FACEÀWEARY CAT ",
  "FACEÀSLIGHTLY FROWNING FACEÉSMILING FACEÀUPSIDE-DOWN FACEÀFACE WITH ROLLING EYESÊNO GOOD GESTURE",
  "ÊOK GESTUREÀPERSON BOWING DEEPLYÀSEE-NO-EVIL MONKEYÀHEAR-NO-EVIL MONKEYÀSPEAK-NO-EVIL MONKEYÀHAP",
  "PY PERSON RAISING ONE HANDÀPERSON RAISING BOTH HANDS IN CELEBRATIONÇFROWNINGÇWITH POUTING FACEÌF",
  "OLDED HANDSÀNORTH WEST POINTING LEAFÀSOUTH WEST POINTING LEAFÀNORTH EAST POINTING LEAFÀSOUTH EAS",
  "T POINTING LEAFÀTURNED NORTH WEST POINTING LEAFÇSOUTH WEST POINTING LEAFÇNORTH EAST POINTING LEA",
  "FÇSOUTH EAST POINTING LEAFÀNORTH WEST POINTING VINE LEAFÀSOUTH WEST POINTING VINE LEAFÀNORTH EAS",
  "T POINTING VINE LEAFÀSOUTH EAST POINTING VINE LEAFÀHEAVY NORTH WEST POINTING VINE LEAFÆSOUTH WES",
  "T POINTING VINE LEAFÆNORTH EAST POINTING VINE LEAFÆSOUTH EAST POINTING VINE LEAFÀNORTH WEST POIN",
  "TING BUDÀSOUTH WEST POINTING BUDÀNORTH EAST POINTING BUDÀSOUTH EAST POINTING BUDÀHEAVY NORTH WES",
  "T POINTING BUDÆSOUTH WEST POINTING BUDÆNORTH EAST POINTING BUDÆSOUTH EAST POINTING BUDÁOLLOW QUI",
  "LT SQUARE ORNAMENTÜ IN BLACK SQUAREÀSOLID QUILT SQUARE ORNAMENTÛ IN BLACK SQUAREÀLEFTWARDS ROCKE",
  "TÀUPWARDS ROCKETÀRIGHTWARDS ROCKETÀDOWNWARDS ROCKETÀSCRIPT LIGATURE ET ORNAMENTÀHEAVY SCRIPT LIG",
  "ATURE ET ORNAMENTÀLIGATURE OPEN ET ORNAMENTÀHEAVY LIGATURE OPEN ET ORNAMENTÆAMPERSAND ORNAMENTÀS",
  "WASH AMPERSAND ORNAMENTÁANS-SERIF HEAVY DOUBLE TURNED COMMA QUOTATION MARK ORNAMENTØCOMMA QUOTAT",
  "ION MARK ORNAMENTÑLOW DOUBLE COMMA QUOTATION MARK ORNAMENTÀHEAVY INTERROBANG ORNAMENTÀSANS-SERIF ",
  "INTERROBANG ORNAMENTÀHEAVY SANS-SERIF INTERROBANG ORNAMENTÀVERY HEAVY SOLIDUSËREVERSE SOLIDUSÀCH",
  "ECKER BOARDÀREVERSE CHECKER BOARDÁOCKETÀHELICOPTERÀSTEAM LOCOMOTIVEÀRAILWAY CARÀHIGH-SPEED TRAIN",
  "Ð WITH BULLET NOSEÀTRAINÀMETROÀLIGHT RAILÀSTATIONÀTRAMÄ CARÀBUSÀONCOMING BUSÀTROLLEYBUSÀBUS STOP",
  "ÀMINIBUSÀAMBULANCEÀFIRE ENGINEÀPOLICE CARÀONCOMING POLICE CARÀTAXIÀONCOMING TAXIÀAUTOMOBILEÀONCO",
  "MING AUTOMOBILEÀRECREATIONAL VEHICLEÀDELIVERY TRUCKÀARTICULATED LORRYÀTRACTORÀMONORAILÂUNTAIN RA",
  "ILWAYÀSUSPENSION RAILWAYÀMOUNTAIN CABLEWAYÀAERIAL TRAMWAYÀSHIPÀROWBOATÀSPEEDBOATÀHORIZONTAL TRAF",
  "FIC LIGHTÀVERTICAL TRAFFIC LIGHTÀCONSTRUCTION SIGNÀPOLICE CARS REVOLVING LIGHTÀTRIANGULAR FLAG O",
  "N POSTÀDOORÀNO ENTRY SIGNÀSMOKING SYMBOLÀNO SMOKING SYMBOLÀPUT LITTER IN ITS PLACE SYMBOLÀDO NOT ",
  "LITTER SYMBOLÀPOTABLE WATER SYMBOLÀNON-POTABLE WATER SYMBOLÀBICYCLEÀNO BICYCLESÀBICYCLISTÀMOUNTA",
  "IN BICYCLISTÀPEDESTRIANÀNO PEDESTRIANSÀCHILDREN CROSSINGÀMENS SYMBOLÀWOMENS SYMBOLÀRESTROOMÀBABY ",
  "SYMBOLÀTOILETÀWATER CLOSETÀSHOWERÀBATHÄTUBÀPASSPORT CONTROLÀCUSTOMSÀBAGGAGE CLAIMÀLEFT LUGGAGEÀT",
  "RIANGLE WITH ROUNDED CORNERSÀPROHIBITED SIGNÀCIRCLED INFORMATION SOURCEÀBOYS SYMBOLÀGIRLS SYMBOL",
  "ÀCOUCH AND LAMPÀSLEEPING ACCOMMODATIONÁHOPPING BAGSÀBELLHOP BELLÂDÀPLACE OF WORSHIPÀOCTAGONAL SI",
  "GNÀSHOPPING TROLLEYÁTUPAÀPAGODAÀHINDU TEMPLEÁUTÀELEVATOR#1F6DDÀPLAYGROUND SLIDEÀWHEELÀRING BUOYÀ",
  "HAMMER AND WRENCHÀSHIELDÀOIL DRUMÀMOTORWAYÀRAILWAY TRACKÀMOTOR BOATÀUP-POINTING MILITARY AIRPLAN",
  "EÌAIRPLANEÌSMALL AIRPLANEÀSMALL AIRPLANEÀNORTHEAST-POINTING AIRPLANEÀAIRPLANE DEPARTUREÉARRIVING",
  "#1F6F0ÀSATELLITEÀONCOMING FIRE ENGINEÀDIESEL LOCOMOTIVEÀPASSENGER SHIPÀSCOOTERÀMOTOR SCOOTERÀCAN",
  "OEÀSLEDÀFLYING SAUCERÀSKATEBOARDÀAUTO RICKSHAWÀPICKUP TRUCKÀROLLER SKATE#1F700ÀALCHEMICAL SYMBOL ",
  "FOR QUINTESSENCEÖAIRÖFIREÖEARTHÖWATERÖAQUAFORTISÚ REGIAà-2ÛVITAEà-2ÖVINEGARÝ-2Þ3ÖSULFURÖPHILOSOP",
  "HERS SULFURÖBLACK SULFURÖMERCURY SUBLIMATEç-2è3ÖCINNABARÖSALTÖNITREÖVITRIOLÝ-2ÖROCK SALTß-2ÖGOLD",
  "ÖSILVERÖIRON OREÞ-2ÖCROCUS OF IRONÖREGULUS OF IRONÖCOPPER OREÖIRON-COPPER OREÖSUBLIMATE OF COPPE",
  "RÖCROCUS OF COPPERæ-2×OPPER ANTIMONIATEÖSALT OF COPPER ANTIMONIATE×UBLIMATE OF SALT OF COPPERÖVE",
  "RDIGRISÖTIN OREÖLEAD OREÖANTIMONY OREÖSUBLIMATE OF ANTIMONY×ALT OF ANTIMONY×UBLIMATE OF SALT OF ",
  "ANTIMONYÖVINEGAR OF ANTIMONYÖREGULUS OF ANTIMONYé-2ÝÝ-2Þ3Þ4ÖALKALIÜ-2ÖMARCASITEÖSAL-AMMONIACÖARS",
  "ENICÖREALGARÝ-2ÖAURIPIGMENTÖBISMUTH OREÖTARTARÜ-2ÖQUICK LIMEÖBORAXÛ-2Ü3ÖALUMÖOILÖSPIRITÖTINCTURE",
  "ÖGUMÖWAXÖPOWDERÖCALXÖTUTTYÖCAPUT MORTUUMÖSCEPTER OF JOVEÖCADUCEUSÖTRIDENTÖSTARRED TRIDENTÖLODEST",
  "ONEÖSOAPÖURINEÖHORSE DUNGÖASHESÖPOT ASHESÖBRICKÖPOWDERED BRICKÖAMALGAMÖSTRATUM SUPER STRATUMë-2×",
  "UBLIMATIONÖPRECIPITATEÖDISTILLÙSOLVEÞ-2ÖPURIFYØTREFACTIONÖCRUCIBLEÞ-2ß3ß4ß5ÖALEMBICÖBATH OF MARY",
  "ÞVAPOURSÖRETORTÖHOURÖNIGHTÖDAY-NIGHTÖMONTHÖHALF DRAMÛOUNCE#1F780ÀBLACK LEFT-POINTING ISOSCELES R",
  "IGHT TRIANGLEÆUP-POINTING ISOSCELES RIGHT TRIANGLEÆRIGHT-POINTING ISOSCELES RIGHT TRIANGLEÆDOWN-",
  "POINTING ISOSCELES RIGHT TRIANGLEÆSLIGHTLY SMALL CIRCLEÀMEDIUM BOLD WHITE CIRCLEÀBOLD WHITE CIRC",
  "LEÀHEAVY WHITE CIRCLEÀVERY HEAVY WHITE CIRCLEÀEXTREMELY HEAVY WHITE CIRCLEÀWHITE CIRCLE CONTAINI",
  "NG BLACK SMALL CIRCLEÀROUND TARGETÀBLACK TINY SQUAREÆSLIGHTLY SMALL SQUAREÀLIGHT WHITE SQUAREÀME",
  "DIUM WHITE SQUAREÀBOLD WHITE SQUAREÀHEAVY WHITE SQUAREÀVERY HEAVY WHITE SQUAREÀEXTREMELY HEAVY W",
  "HITE SQUAREÀWHITE SQUARE CONTAINING BLACK VERY SMALL SQUAREÞMEDIUM SQUAREÀSQUARE TARGETÀBLACK TI",
  "NY DIAMONDÆVERY SMALL DIAMONDÆMEDIUM SMALL DIAMONDÀWHITE DIAMOND CONTAINING BLACK VERY SMALL DIA",
  "MONDßMEDIUM DIAMONDÀDIAMOND TARGETÀBLACK TINY LOZENGEÆVERY SMALL LOZENGEÆMEDIUM SMALL LOZENGEÀWH",
  "ITE LOZENGE CONTAINING BLACK SMALL LOZENGEÀTHIN GREEK CROSSÀLIGHT GREEK CROSSÀMEDIUM GREEK CROSS",
  "ÀBOLD GREEK CROSSÀVERY BOLD GREEK CROSSÅHEAVY GREEK CROSSÀEXTREMELY HEAVY GREEK CROSSÀTHIN SALTI",
  "REÀLIGHT SALTIREÀMEDIUM SALTIREÀBOLD SALTIREÀHEAVY SALTIREÀVERY HEAVY SALTIREÀEXTREMELY HEAVY SA",
  "LTIREÀLIGHT FIVE SPOKED ASTERISKÀMEDIUM FIVE SPOKED ASTERISKÀBOLD FIVE SPOKED ASTERISKÀHEAVY FIV",
  "E SPOKED ASTERISKÀVERY HEAVY FIVE SPOKED ASTERISKÀEXTREMELY HEAVY FIVE SPOKED ASTERISKÀLIGHT SIX ",
  "SPOKED ASTERISKÀMEDIUM SIX SPOKED ASTERISKÀBOLD SIX SPOKED ASTERISKÀHEAVY SIX SPOKED ASTERISKÀVE",
  "RY HEAVY SIX SPOKED ASTERISKÀEXTREMELY HEAVY SIX SPOKED ASTERISKÀLIGHT EIGHT SPOKED ASTERISKÀMED",
  "IUM EIGHT SPOKED ASTERISKÀBOLD EIGHT SPOKED ASTERISKÀHEAVY EIGHT SPOKED ASTERISKÀVERY HEAVY EIGH",
  "T SPOKED ASTERISKÀLIGHT THREE POINTED BLACK STARÀMEDIUM THREE POINTED BLACK STARÀTHREE POINTED B",
  "LACK STARÀMEDIUM THREE POINTED PINWHEEL STARÀLIGHT FOUR POINTED BLACK STARÀMEDIUM FOUR POINTED B",
  "LACK STARÀFOUR POINTED BLACK STARÀMEDIUM FOUR POINTED PINWHEEL STARÀREVERSE LIGHT FOUR POINTED P",
  "INWHEEL STARÀLIGHT FIVE POINTED BLACK STARÀHEAVY FIVE POINTED BLACK STARÀMEDIUM SIX POINTED BLAC",
  "K STARÀHEAVY SIX POINTED BLACK STARÀSIX POINTED PINWHEEL STARÀMEDIUM EIGHT POINTED BLACK STARÀHE",
  "AVY EIGHT POINTED BLACK STARÀVERY HEAVY EIGHT POINTED BLACK STARÀHEAVY EIGHT POINTED PINWHEEL ST",
  "ARÀLIGHT TWELVE POINTED BLACK STARÀHEAVY TWELVE POINTED BLACK STARÕPINWHEEL STARÀCIRCLED TRIANGL",
  "EÀNEGATIVE CIRCLED TRIANGLEÀCIRCLED SQUAREÀNEGATIVE CIRCLED SQUARE#1F7E0ÀLARGE ORANGE CIRCLEÆYEL",
  "LOW CIRCLEÆGREEN CIRCLEÆPURPLE CIRCLEÆBROWN CIRCLEÆRED SQUAREÆBLUE SQUAREÆORANGE SQUAREÆYELLOW S",
  "QUAREÆGREEN SQUAREÆPURPLE SQUAREÆBROWN SQUARE#1F7F0ÀHEAVY EQUALS SIGN#1F800ÀLEFTWARDS ARROW WITH ",
  "SMALL TRIANGLE ARROWHEADÀUPWARDS ARROW WITH SMALL TRIANGLE ARROWHEADÀRIGHTWARDS ARROW WITH SMALL ",
  "TRIANGLE ARROWHEADÀDOWNWARDS ARROW WITH SMALL TRIANGLE ARROWHEADÀLEFTWARDS ARROW WITH MEDIUM TRI",
  "ANGLE ARROWHEADÀUPWARDS ARROW WITH MEDIUM TRIANGLE ARROWHEADÀRIGHTWARDS ARROW WITH MEDIUM TRIANG",
  "LE ARROWHEADÀDOWNWARDS ARROW WITH MEDIUM TRIANGLE ARROWHEADÀLEFTWARDS ARROW WITH LARGE TRIANGLE ",
  "ARROWHEADÀUPWARDS ARROW WITH LARGE TRIANGLE ARROWHEADÀRIGHTWARDS ARROW WITH LARGE TRIANGLE ARROW",
  "HEADÀDOWNWARDS ARROW WITH LARGE TRIANGLE ARROWHEAD#1F810ÀLEFTWARDS ARROW WITH SMALL EQUILATERAL ",
  "ARROWHEADÀUPWARDS ARROW WITH SMALL EQUILATERAL ARROWHEADÀRIGHTWARDS ARROW WITH SMALL EQUILATERAL ",
  "ARROWHEADÀDOWNWARDS ARROW WITH SMALL EQUILATERAL ARROWHEADÀLEFTWARDS ARROW WITH EQUILATERAL ARRO",
  "WHEADÀUPWARDS ARROW WITH EQUILATERAL ARROWHEADÀRIGHTWARDS ARROW WITH EQUILATERAL ARROWHEADÀDOWNW",
  "ARDS ARROW WITH EQUILATERAL ARROWHEADÀHEAVY LEFTWARDS ARROW WITH EQUILATERAL ARROWHEADÆUPWARDS A",
  "RROW WITH EQUILATERAL ARROWHEADÆRIGHTWARDS ARROW WITH EQUILATERAL ARROWHEADÆDOWNWARDS ARROW WITH ",
  "EQUILATERAL ARROWHEADÆLEFTWARDS ARROW WITH LARGE EQUILATERAL ARROWHEADÆUPWARDS ARROW WITH LARGE ",
  "EQUILATERAL ARROWHEADÆRIGHTWARDS ARROW WITH LARGE EQUILATERAL ARROWHEADÆDOWNWARDS ARROW WITH LAR",
  "GE EQUILATERAL ARROWHEADÀLEFTWARDS TRIANGLE-HEADED ARROW WITH NARROW SHAFTÀUPWARDS TRIANGLE-HEAD",
  "ED ARROW WITH NARROW SHAFTÀRIGHTWARDS TRIANGLE-HEADED ARROW WITH NARROW SHAFTÀDOWNWARDS TRIANGLE",
  "-HEADED ARROW WITH NARROW SHAFTÀLEFTWARDS TRIANGLE-HEADED ARROW WITH MEDIUM SHAFTÀUPWARDS TRIANG",
  "LE-HEADED ARROW WITH MEDIUM SHAFTÀRIGHTWARDS TRIANGLE-HEADED ARROW WITH MEDIUM SHAFTÀDOWNWARDS T",
  "RIANGLE-HEADED ARROW WITH MEDIUM SHAFTÀLEFTWARDS TRIANGLE-HEADED ARROW WITH BOLD SHAFTÀUPWARDS T",
  "RIANGLE-HEADED ARROW WITH BOLD SHAFTÀRIGHTWARDS TRIANGLE-HEADED ARROW WITH BOLD SHAFTÀDOWNWARDS ",
  "TRIANGLE-HEADED ARROW WITH BOLD SHAFTÀLEFTWARDS TRIANGLE-HEADED ARROW WITH HEAVY SHAFTÀUPWARDS T",
  "RIANGLE-HEADED ARROW WITH HEAVY SHAFTÀRIGHTWARDS TRIANGLE-HEADED ARROW WITH HEAVY SHAFTÀDOWNWARD",
  "S TRIANGLE-HEADED ARROW WITH HEAVY SHAFTÀLEFTWARDS TRIANGLE-HEADED ARROW WITH VERY HEAVY SHAFTÀU",
  "PWARDS TRIANGLE-HEADED ARROW WITH VERY HEAVY SHAFTÀRIGHTWARDS TRIANGLE-HEADED ARROW WITH VERY HE",
  "AVY SHAFTÀDOWNWARDS TRIANGLE-HEADED ARROW WITH VERY HEAVY SHAFTÀLEFTWARDS FINGER-POST ARROWÀUPWA",
  "RDS FINGER-POST ARROWÀRIGHTWARDS FINGER-POST ARROWÀDOWNWARDS FINGER-POST ARROWÀLEFTWARDS SQUARED ",
  "ARROWÀUPWARDS SQUARED ARROWÀRIGHTWARDS SQUARED ARROWÀDOWNWARDS SQUARED ARROWÀLEFTWARDS COMPRESSE",
  "D ARROWÀUPWARDS COMPRESSED ARROWÀRIGHTWARDS COMPRESSED ARROWÀDOWNWARDS COMPRESSED ARROWÀLEFTWARD",
  "S HEAVY COMPRESSED ARROWÀUPWARDS HEAVY COMPRESSED ARROWÀRIGHTWARDS HEAVY COMPRESSED ARROWÀDOWNWA",
  "RDS HEAVY COMPRESSED ARROWÀLEFTWARDS HEAVY ARROWÀUPWARDS HEAVY ARROWÀRIGHTWARDS HEAVY ARROWÀDOWN",
  "WARDS HEAVY ARROW#1F850ÀLEFTWARDS SANS-SERIF ARROWÀUPWARDS SANS-SERIF ARROWÀRIGHTWARDS SANS-SERI",
  "F ARROWÀDOWNWARDS SANS-SERIF ARROWÀNORTH WEST SANS-SERIF ARROWÆEAST SANS-SERIF ARROWÀSOUTH EAST ",
  "SANS-SERIF ARROWÆWEST SANS-SERIF ARROWÀLEFT RIGHT SANS-SERIF ARROWÀUP DOWN SANS-SERIF ARROW#1F86",
  "0ÀWIDE-HEADED LEFTWARDS LIGHT BARB ARROWÌUPWARDS LIGHT BARB ARROWÌRIGHTWARDS LIGHT BARB ARROWÌDO",
  "WNWARDS LIGHT BARB ARROWÌNORTH WEST LIGHT BARB ARROWÒEAST LIGHT BARB ARROWÌSOUTH EAST LIGHT BARB ",
  "ARROWÒWEST LIGHT BARB ARROWÌLEFTWARDS BARB ARROWÌUPWARDS BARB ARROWÌRIGHTWARDS BARB ARROWÌDOWNWA",
  "RDS BARB ARROWÌNORTH WEST BARB ARROWÒEAST BARB ARROWÌSOUTH EAST BARB ARROWÒWEST BARB ARROWÌLEFTW",
  "ARDS MEDIUM BARB ARROWÌUPWARDS MEDIUM BARB ARROWÌRIGHTWARDS MEDIUM BARB ARROWÌDOWNWARDS MEDIUM B",
  "ARB ARROWÌNORTH WEST MEDIUM BARB ARROWÒEAST MEDIUM BARB ARROWÌSOUTH EAST MEDIUM BARB ARROWÒWEST ",
  "MEDIUM BARB ARROWÌLEFTWARDS HEAVY BARB ARROWÌUPWARDS HEAVY BARB ARROWÌRIGHTWARDS HEAVY BARB ARRO",
  "WÌDOWNWARDS HEAVY BARB ARROWÌNORTH WEST HEAVY BARB ARROWÒEAST HEAVY BARB ARROWÌSOUTH EAST HEAVY ",
  "BARB ARROWÒWEST HEAVY BARB ARROWÌLEFTWARDS VERY HEAVY BARB ARROWÌUPWARDS VERY HEAVY BARB ARROWÌR",
  "IGHTWARDS VERY HEAVY BARB ARROWÌDOWNWARDS VERY HEAVY BARB ARROWÌNORTH WEST VERY HEAVY BARB ARROW",
  "ÒEAST VERY HEAVY BARB ARROWÌSOUTH EAST VERY HEAVY BARB ARROWÒWEST VERY HEAVY BARB ARROW#1F890ÀLE",
  "FTWARDS TRIANGLE ARROWHEADÀUPWARDS TRIANGLE ARROWHEADÀRIGHTWARDS TRIANGLE ARROWHEADÀDOWNWARDS TR",
  "IANGLE ARROWHEADÀLEFTWARDS WHITE ARROW WITHIN TRIANGLE ARROWHEADÀUPWARDS WHITE ARROW WITHIN TRIA",
  "NGLE ARROWHEADÀRIGHTWARDS WHITE ARROW WITHIN TRIANGLE ARROWHEADÀDOWNWARDS WHITE ARROW WITHIN TRI",
  "ANGLE ARROWHEADÀLEFTWARDS ARROW WITH NOTCHED TAILÀUPWARDS ARROW WITH NOTCHED TAILÀRIGHTWARDS ARR",
  "OW WITH NOTCHED TAILÀDOWNWARDS ARROW WITH NOTCHED TAILÀHEAVY ARROW SHAFT WIDTH ONEØTWO THIRDSØON",
  "E HALFÜTHIRDÀLEFTWARDS BOTTOM-SHADED WHITE ARROWÀRIGHTWARDS BOTTOM SHADED WHITE ARROWÀLEFTWARDS ",
  "TOP SHADED WHITE ARROWÀRIGHTWARDS TOP SHADED WHITE ARROWÀLEFTWARDS LEFT-SHADED WHITE ARROWÀRIGHT",
  "WARDS RIGHT-SHADED WHITE ARROWÀLEFTWARDS RIGHT-SHADED WHITE ARROWÀRIGHTWARDS LEFT-SHADED WHITE A",
  "RROWÀLEFTWARDS BACK-TILTED SHADOWED WHITE ARROWÀRIGHTWARDS BACK-TILTED SHADOWED WHITE ARROWÀLEFT",
  "WARDS FRONT-TILTED SHADOWED WHITE ARROWÀRIGHTWARDS FRONT-TILTED SHADOWED WHITE ARROWÀWHITE ARROW ",
  "SHAFT WIDTH ONEØTWO THIRDS#1F8B0ÀARROW POINTING UPWARDS THEN NORTH WESTÏRIGHTWARDS THEN CURVING ",
  "SOUTH WEST#1F900ÀCIRCLED CROSS FORMEE WITH FOUR DOTSÚTWO DOTSÔÀLEFT HALF CIRCLE WITH FOUR DOTSÖT",
  "HREE DOTS×WO DOTSÖDOTÐÀDOWNWARD FACING HOOKÐNOTCHED HOOKÐHOOK WITH DOTÐNOTCHED HOOK WITH DOTÀPIN",
  "CHED FINGERSÀWHITE HEARTÀBROWN HEARTÀPINCHING HANDÀZIPPER-MOUTH FACEÀMONEY-MOUTH FACEÀFACE WITH ",
  "THERMOMETERÀNERD FACEÀTHINKING FACEÀFACE WITH HEAD-BANDAGEÀROBOT FACEÀHUGGING FACEÀSIGN OF THE H",
  "ORNSÀCALL ME HANDÀRAISED BACK OF HANDÀLEFT-FACING FISTÀRIGHT-FACING FISTÀHANDSHAKEÄ WITH INDEX A",
  "ND MIDDLE FINGERS CROSSEDÀI LOVE YOU HAND SIGNÀFACE WITH COWBOY HATÀCLOWN FACEÀNAUSEATED FACEÀRO",
  "LLING ON THE FLOOR LAUGHINGÀDROOLING FACEÀLYING FACEÀFACE PALMÀSNEEZING FACEÀFACE WITH ONE EYEBR",
  "OW RAISEDÀGRINNING FACE WITH STAR EYESÓONE LARGE AND ONE SMALL EYEÀFACE WITH FINGER COVERING CLO",
  "SED LIPSÀSERIOUS FACE WITH SYMBOLS COVERING MOUTHÁMILING FACE WITH SMILING EYES AND HAND COVERIN",
  "G MOUTHÀFACE WITH OPEN MOUTH VOMITINGÀSHOCKED FACE WITH EXPLODING HEADÀPREGNANT WOMANÀBREAST-FEE",
  "DINGÀPALMS UP TOGETHERÀSELFIEÀPRINCEÀMAN IN TUXEDOÁOTHER CHRISTMASÀSHRUGÀPERSON DOING CARTWHEELÀ",
  "JUGGLINGÀFENCERÀMODERN PENTATHLONÀWRESTLERSÁATER POLOÀHANDBALLÀDIVING MASKÀWILTED FLOWERÀDRUM WI",
  "TH DRUMSTICKSÀCLINKING GLASSESÀTUMBLER GLASSÀSPOONÀGOAL NETÀRIFLEÀFIRST PLACE MEDALÀSECOND PLACE ",
  "MEDALÀTHIRD PLACE MEDALÀBOXING GLOVEÀMARTIAL ARTS UNIFORMÀCURLING STONEÀLACROSSE STICK AND BALLÀ",
  "SOFTBALLÀFLYING DISCÀCROISSANTÀAVOCADOÀCUCUMBERÀBACONÀPOTATOÀCARROTÀBAGUETTE BREADÀGREEN SALADÀS",
  "HALLOW PAN OF FOODÁTUFFED FLATBREADÀEGGÀGLASS OF MILKÀPEANUTSÀKIWIFRUITÀPANCAKESÀDUMPLINGÀFORTUN",
  "E COOKIEÀTAKEOUT BOXÀCHOPSTICKSÀBOWL WITH SPOONÀCUP WITH STRAWÁOCONUTÀBROCCOLIÀPIEÁRETZELÀCUT OF ",
  "MEATÀSANDWICHÀCANNED FOODÀLEAFY GREENÀMANGOÁOON CAKEÀBAGELÀSMILING FACE WITH SMILING EYES AND TH",
  "REE HEARTSÀYAWNING FACEÀSMILING FACE WITH TEARÀFACE WITH PARTY HORN AND PARTY HATÊUNEVEN EYES AN",
  "D WAVY MOUTHÀOVERHEATED FACEÀFREEZING FACEÀNINJAÀDISGUISED FACEÀFACE HOLDING BACK TEARSÅWITH PLE",
  "ADING EYESÀSARIÀLAB COATÀGOGGLESÀHIKING BOOTÀFLAT SHOEÀCRABÀLION FACEÀSCORPIONÀTURKEYÀUNICORN FA",
  "CEÀEAGLEÀDUCKÀBATÀSHARKÀOWLÀFOX FACEÀBUTTERFLYÀDEERÀGORILLAÀLIZARDÀRHINOCEROSÀSHRIMPÁQUIDÀGIRAFF",
  "E FACEÀZEBRA FACEÀHEDGEHOGÀSAUROPODÀT-REXÀCRICKETÀKANGAROOÀLLAMAÀPEACOCKÀHIPPOPOTAMUSÀPARROTÀRAC",
  "COONÀLOBSTERÀMOSQUITOÁICROBEÀBADGERÀSWANÀMAMMOTHÀDODOÀSLOTHÀOTTERÁRANGUTANÀSKUNKÀFLAMINGOÀOYSTER",
  "ÀBEAVERÁISONÀSEALÀGUIDE DOGÀPROBING CANEÀEMOJI COMPONENT RED HAIRÐCURLY HAIRÐBALDÐWHITE HAIRÀBON",
  "EÀLEGÀFOOTÀTOOTHÀSUPERHEROÅVILLAINÁAFETY VESTÀEAR WITH HEARING AIDÀMOTORIZED WHEELCHAIRÁANUAL WH",
  "EELCHAIRÁECHANICAL ARMËLEGÀCHEESE WEDGEÁUPCAKEÀSALT SHAKERÀBEVERAGE BOXÀGARLICÀONIONÀFALAFELÀWAF",
  "FLEÀBUTTERÀMATE DRINKÀICE CUBEÀBUBBLE TEAÀTROLLÀSTANDING PERSONÀKNEELING PERSONÀDEAF PERSONÀFACE ",
  "WITH MONOCLEÀADULTÀCHILDÀOLDER ADULTÀBEARDED PERSONÀPERSON WITH HEADSCARFÇIN STEAMY ROOMÇCLIMBIN",
  "GÇIN LOTUS POSITIONÀMAGEÀFAIRYÀVAMPIREÀMERPERSONÀELFÀGENIEÀZOMBIEÀBRAINÀORANGE HEARTÀBILLED CAPÀ",
  "SCARFÀGLOVESÀCOATÀSOCKSÀRED GIFT ENVELOPEÀFIRECRACKERÀJIGSAW PUZZLE PIECEÀTEST TUBEÀPETRI DISHÀD",
  "NA DOUBLE HELIXÀCOMPASSÀABACUSÀFIRE EXTINGUISHERÀTOOLBOXÀBRICKÀMAGNETÀLUGGAGEÁOTION BOTTLEÀSPOOL ",
  "OF THREADÀBALL OF YARNÀSAFETY PINÀTEDDY BEARÀBROOMÁASKETÀROLL OF PAPERÀBAR OF SOAPÀSPONGEÀRECEIP",
  "TÀNAZAR AMULETÁEUTRAL CHESS KINGÎQUEENÎROOKÎBISHOPÎKNIGHTÎPAWNÀWHITE CHESS KNIGHT ROTATED FORTY-",
  "FIVE DEGREESÀBLACK CHESS KNIGHT ROTATED FORTY-FIVE DEGREESÀNEUTRAL CHESS KNIGHT ROTATED FORTY-FI",
  "VE DEGREESÀWHITE CHESS KING ROTATED NINETY DEGREESÌQUEEN ROTATED NINETY DEGREESÌROOK ROTATED NIN",
  "ETY DEGREESÌBISHOP ROTATED NINETY DEGREESÌKNIGHT ROTATED NINETY DEGREESÌPAWN ROTATED NINETY DEGR",
  "EESÀBLACK CHESS KING ROTATED NINETY DEGREESÌQUEEN ROTATED NINETY DEGREESÌROOK ROTATED NINETY DEG",
  "REESÌBISHOP ROTATED NINETY DEGREESÌKNIGHT ROTATED NINETY DEGREESÌPAWN ROTATED NINETY DEGREESÀNEU",
  "TRAL CHESS KING ROTATED NINETY DEGREESÎQUEEN ROTATED NINETY DEGREESÎROOK ROTATED NINETY DEGREESÎ",
  "BISHOP ROTATED NINETY DEGREESÎKNIGHT ROTATED NINETY DEGREESÎPAWN ROTATED NINETY DEGREESÀWHITE CH",
  "ESS KNIGHT ROTATED ONE HUNDRED THIRTY-FIVE DEGREESÀBLACK CHESS KNIGHT ROTATED ONE HUNDRED THIRTY",
  "-FIVE DEGREESÀNEUTRAL CHESS KNIGHT ROTATED ONE HUNDRED THIRTY-FIVE DEGREESÀWHITE CHESS TURNED KI",
  "NGÓQUEENÓROOKÓBISHOPÓKNIGHTÓPAWNÀBLACK CHESS TURNED KINGÓQUEENÓROOKÓBISHOPÓKNIGHTÓPAWNÀNEUTRAL C",
  "HESS TURNED KINGÕQUEENÕROOKÕBISHOPÕKNIGHTÕPAWNÀWHITE CHESS KNIGHT ROTATED TWO HUNDRED TWENTY-FIV",
  "E DEGREESÀBLACK CHESS KNIGHT ROTATED TWO HUNDRED TWENTY-FIVE DEGREESÀNEUTRAL CHESS KNIGHT ROTATE",
  "D TWO HUNDRED TWENTY-FIVE DEGREESÀWHITE CHESS KING ROTATED TWO HUNDRED SEVENTY DEGREESÌQUEEN ROT",
  "ATED TWO HUNDRED SEVENTY DEGREESÌROOK ROTATED TWO HUNDRED SEVENTY DEGREESÌBISHOP ROTATED TWO HUN",
  "DRED SEVENTY DEGREESÌKNIGHT ROTATED TWO HUNDRED SEVENTY DEGREESÌPAWN ROTATED TWO HUNDRED SEVENTY ",
  "DEGREESÀBLACK CHESS KING ROTATED TWO HUNDRED SEVENTY DEGREESÌQUEEN ROTATED TWO HUNDRED SEVENTY D",
  "EGREESÌROOK ROTATED TWO HUNDRED SEVENTY DEGREESÌBISHOP ROTATED TWO HUNDRED SEVENTY DEGREESÌKNIGH",
  "T ROTATED TWO HUNDRED SEVENTY DEGREESÌPAWN ROTATED TWO HUNDRED SEVENTY DEGREESÀNEUTRAL CHESS KIN",
  "G ROTATED TWO HUNDRED SEVENTY DEGREESÎQUEEN ROTATED TWO HUNDRED SEVENTY DEGREESÎROOK ROTATED TWO ",
  "HUNDRED SEVENTY DEGREESÎBISHOP ROTATED TWO HUNDRED SEVENTY DEGREESÎKNIGHT ROTATED TWO HUNDRED SE",
  "VENTY DEGREESÎPAWN ROTATED TWO HUNDRED SEVENTY DEGREESÀWHITE CHESS KNIGHT ROTATED THREE HUNDRED ",
  "FIFTEEN DEGREESÀBLACK CHESS KNIGHT ROTATED THREE HUNDRED FIFTEEN DEGREESÀNEUTRAL CHESS KNIGHT RO",
  "TATED THREE HUNDRED FIFTEEN DEGREESÀWHITE CHESS EQUIHOPPERÀBLACK CHESS EQUIHOPPERÀNEUTRAL CHESS ",
  "EQUIHOPPERÀWHITE CHESS EQUIHOPPER ROTATED NINETY DEGREESÀBLACK CHESS EQUIHOPPER ROTATED NINETY D",
  "EGREESÀNEUTRAL CHESS EQUIHOPPER ROTATED NINETY DEGREESÀWHITE CHESS KNIGHT-QUEENÓROOKÓBISHOPÀBLAC",
  "K CHESS KNIGHT-QUEENÓROOKÓBISHOP#1FA60ÀXIANGQI RED GENERALÌMANDARINÌELEPHANTÌHORSEÌCHARIOTÍANNON",
  "ÌSOLDIERÈBLACK GENERALÎMANDARINÎELEPHANTÎHORSEÎCHARIOTÏANNONÎSOLDIER#1FA70ÀBALLET SHOESÀONE-PIEC",
  "E SWIMSUITÀBRIEFSÀSHORTSÀTHONG SANDAL#1FA78ÀDROP OF BLOODÀADHESIVE BANDAGEÀSTETHOSCOPEÀX-RAYÀCRU",
  "TCH#1FA80ÀYO-YOÀKITEÀPARACHUTEÀBOOMERANGÀMAGIC WANDÀPINATAÀNESTING DOLLS#1FA90ÀRINGED PLANETÀCHA",
  "IRÀRAZORÀAXEÀDIYA LAMPÀBANJOÀMILITARY HELMETÀACCORDIONÀLONG DRUMÀCOINÁARPENTRY SAWÀSCREWDRIVERÀL",
  "ADDERÀHOOKÀMIRRORÀWINDOWÀPLUNGERÀSEWING NEEDLEÀKNOTÀBUCKETÀMOUSE TRAPÀTOOTHBRUSHÀHEADSTONEÀPLACA",
  "RDÀROCKÀMIRROR BALLÀIDENTIFICATION CARDÀLOW BATTERYÀHAMSA#1FAB0ÀFLYÀWORMÀBEETLEÀCOCKROACHÀPOTTED ",
  "PLANTÀWOODÀFEATHERÀLOTUSÀCORALÀEMPTY NESTÀNEST WITH EGGS#1FAC0ÀANATOMICAL HEARTÀLUNGSÀPEOPLE HUG",
  "GINGÁREGNANT MANÉPERSONÁERSON WITH CROWN#1FAD0ÀBLUEBERRIESÁELL PEPPERÀOLIVEÀFLATBREADÀTAMALEÀFON",
  "DUEÀTEAPOTÀPOURING LIQUIDÀBEANSÀJAR#1FAE0ÀMELTING FACEÀSALUTING FACEÀFACE WITH OPEN EYES AND HAN",
  "D OVER MOUTHÊPEEKING EYEÊDIAGONAL MOUTHÀDOTTED LINE FACEÀBITING LIPÁUBBLES#1FAF0ÀHAND WITH INDEX ",
  "FINGER AND THUMB CROSSEDÀRIGHTWARDS HANDÀLEFTWARDS HANDÀPALM DOWN HANDÅUP HANDÀINDEX POINTING AT ",
  "THE VIEWERÀHEART HANDS#1FB00ÀBLOCK SEXTANT-1Î2Î12Î3Î13Î23Î123Î4Î14Î24Î124Î34Î134Î234Î1234Î5Î15Î2",
  "5Î125Î35Î235Î1235Î45Î145Î245Î1245Î345Î1345Î2345Î12345Î6Î16Î26Î126Î36Î136Î236Î1236Î46Î146Ï246Î346",
  "Î1346Î2346Î12346Î56Î156Î256Î1256Î356Î1356Î2356Î12356Î456Î1456Î2456Î12456Î3456Î13456Î23456ÀLOWER ",
  "LEFT BLOCK DIAGONAL LOWER MIDDLE LEFT TO LOWER CENTREõRIGHTÚUPPER MIDDLE LEFT TO LOWER CENTREõRI",
  "GHTàLEFT TO LOWER CENTREÆRIGHT BLOCK DIAGONAL UPPER MIDDLE LEFT TO UPPER CENTREöRIGHTÛLOWER MIDD",
  "LE LEFT TO UPPER CENTREöRIGHTáLEFT TO UPPER CENTREáMIDDLE LEFT TO UPPER MIDDLE RIGHTáCENTRE TO L",
  "OWER MIDDLE RIGHTáLEFT TO LOWER MIDDLE RIGHTáCENTRE TO UPPER MIDDLE RIGHTáLEFT TO UPPER MIDDLE R",
  "IGHTáCENTRE TO UPPER RIGHTÆLEFT BLOCK DIAGONAL UPPER CENTRE TO UPPER MIDDLE RIGHTàLEFT TO UPPER ",
  "MIDDLE RIGHTàCENTRE TO LOWER MIDDLE RIGHTàLEFT TO LOWER MIDDLE RIGHTàCENTRE TO LOWER RIGHTàMIDDL",
  "E LEFT TO LOWER MIDDLE RIGHTÀUPPER RIGHT BLOCK DIAGONAL LOWER MIDDLE LEFT TO LOWER CENTREöRIGHTÛ",
  "UPPER MIDDLE LEFT TO LOWER CENTREöRIGHTáLEFT TO LOWER CENTREÆLEFT BLOCK DIAGONAL UPPER MIDDLE LE",
  "FT TO UPPER CENTREõRIGHTÚLOWER MIDDLE LEFT TO UPPER CENTREõRIGHTàLEFT TO UPPER CENTREàMIDDLE LEF",
  "T TO UPPER MIDDLE RIGHTàCENTRE TO LOWER MIDDLE RIGHTàLEFT TO LOWER MIDDLE RIGHTàCENTRE TO UPPER ",
  "MIDDLE RIGHTàLEFT TO UPPER MIDDLE RIGHTàCENTRE TO UPPER RIGHTÆRIGHT BLOCK DIAGONAL UPPER CENTRE ",
  "TO UPPER MIDDLE RIGHTáLEFT TO UPPER MIDDLE RIGHTáCENTRE TO LOWER MIDDLE RIGHTáLEFT TO LOWER MIDD",
  "LE RIGHTáCENTRE TO LOWER RIGHTáMIDDLE LEFT TO LOWER MIDDLE RIGHTÆAND RIGHT AND LOWER TRIANGULAR ",
  "THREE QUARTERS BLOCKÀLEFT AND LOWER AND RIGHT TRIANGULAR THREE QUARTERS BLOCKÀUPPER AND LEFT AND ",
  "LOWER TRIANGULAR THREE QUARTERS BLOCKÀLEFT AND UPPER AND RIGHT TRIANGULAR THREE QUARTERS BLOCKÅT",
  "RIANGULAR ONE QUARTER BLOCKÀUPPER TRIANGULAR ONE QUARTER BLOCKÀRIGHT TRIANGULAR ONE QUARTER BLOC",
  "KÀLOWER TRIANGULAR ONE QUARTER BLOCKÀVERTICAL ONE EIGHTH BLOCK-2Ú3Ú4Ú5Ú6Ú7ÀHORIZONTAL ONE EIGHTH ",
  "BLOCK-2Ü3Ü4Ü5Ü6Ü7ÀLEFT AND LOWER ONE EIGHTH BLOCKÉUPPER ONE EIGHTH BLOCKÀRIGHT AND UPPER ONE EIG",
  "HTH BLOCKÊLOWER ONE EIGHTH BLOCKÀUPPER AND LOWER ONE EIGHTH BLOCKÀHORIZONTAL ONE EIGHTH BLOCK-13",
  "58ÀUPPER ONE QUARTER BLOCKÆTHREE EIGHTHS BLOCKÆFIVE EIGHTHS BLOCKÆTHREE QUARTERS BLOCKÆSEVEN EIG",
  "HTHS BLOCKÀRIGHT ONE QUARTER BLOCKÆTHREE EIGHTHS BLOCKÆFIVE EIGHTHS BLOCKÆTHREE QUARTERS BLOCKÆS",
  "EVEN EIGHTHS BLOCKÀLEFT HALF MEDIUM SHADEÀRIGHT HALF MEDIUM SHADEÀUPPER HALF MEDIUM SHADEÀLOWER ",
  "HALF MEDIUM SHADEÀINVERSE MEDIUM SHADEÀUPPER HALF BLOCK AND LOWER HALF INVERSE MEDIUM SHADEËINVE",
  "RSE MEDIUM SHADE AND LOWER HALF BLOCK#1FB94ÀLEFT HALF INVERSE MEDIUM SHADE AND RIGHT HALF BLOCKÀ",
  "CHECKER BOARD FILLÀINVERSE CHECKER BOARD FILLÀHEAVY HORIZONTAL FILLÀUPPER LEFT TO LOWER RIGHT FI",
  "LLÆRIGHT TO LOWER LEFT FILLÆAND LOWER TRIANGULAR HALF BLOCKÀLEFT AND RIGHT TRIANGULAR HALF BLOCK",
  "ÀUPPER LEFT TRIANGULAR MEDIUM SHADEÆRIGHT TRIANGULAR MEDIUM SHADEÀLOWER RIGHT TRIANGULAR MEDIUM ",
  "SHADEÆLEFT TRIANGULAR MEDIUM SHADEÀBOX DRAWINGS LIGHT DIAGONAL UPPER CENTRE TO MIDDLE LEFTóRIGHT",
  "ÜMIDDLE LEFT TO LOWER CENTREãRIGHT TO LOWER CENTREÜUPPER CENTRE TO MIDDLE LEFT TO LOWER CENTREóR",
  "IGHT TO LOWER CENTREÜMIDDLE LEFT TO LOWER CENTRE TO MIDDLE RIGHTëUPPER CENTRE TO MIDDLE RIGHTÜUP",
  "PER CENTRE TO MIDDLE LEFT AND MIDDLE RIGHT TO LOWER CENTREóRIGHT AND MIDDLE LEFT TO LOWER CENTRE",
  "ùTO LOWER CENTRE TO MIDDLE LEFTóLEFT TO LOWER CENTRE TO MIDDLE RIGHTÜMIDDLE LEFT TO UPPER CENTRE ",
  "TO MIDDLE RIGHT TO LOWER CENTREãRIGHT TO UPPER CENTRE TO MIDDLE LEFT TO LOWER CENTREÜDIAMONDÓHOR",
  "IZONTAL WITH VERTICAL STROKEÀARROWHEAD-SHAPED POINTERÀINVERSE CHECK MARKÀLEFT HALF RUNNING MANÀR",
  "IGHT HALF RUNNING MANÀINVERSE DOWNWARDS ARROW WITH TIP LEFTWARDSÀLEFTWARDS ARROW AND UPPER AND L",
  "OWER ONE EIGHTH BLOCKÀRIGHTWARDS ARROW AND UPPER AND LOWER ONE EIGHTH BLOCKÀDOWNWARDS ARROW AND ",
  "RIGHT ONE EIGHTH BLOCKÀUPWARDS ARROW AND RIGHT ONE EIGHTH BLOCKÀLEFT HALF FOLDERÀRIGHT HALF FOLD",
  "ERÀVOIDED GREEK CROSSÀRIGHT OPEN SQUARED DOTÀNEGATIVE DIAGONAL CROSSÒMIDDLE RIGHT TO LOWER CENTR",
  "EÒDIAMONDÀWHITE HEAVY SALTIRE WITH ROUNDED CORNERSÀLEFT THIRD WHITE RIGHT POINTING INDEXÀMIDDLE ",
  "THIRD WHITE RIGHT POINTING INDEXÀRIGHT THIRD WHITE RIGHT POINTING INDEXÀNEGATIVE SQUARED QUESTIO",
  "N MARKÀSTICK FIGUREÌ WITH ARMS RAISEDÍLEANING LEFTÕRIGHTÍWITH DRESSÀWHITE UP-POINTING CHEVRON#1F",
  "BF0ÀSEGMENTED DIGIT ZEROÐONEÐTWOÑHREEÐFOURÑIVEÐSIXÑEVENÐEIGHTÐNINE#2F800ÀCJK COMPATIBILITY IDEOG",
  "RAPH-2F800à1à2à3à4à5à6à7à8à9àAàBàCàDàEàFß10à1à2à3à4à5à6à7à8à9àAàBàCàDàEàFß20à1à2à3à4à5à6à7à8à9àA",
  "àBàCàDàEàFß30à1à2à3à4à5à6à7à8à9àAàBàCàDàEàFß40à1à2à3à4à5à6à7à8à9àAàBàCàDàEàFß50à1à2à3à4à5à6à7à8à",
  "9àAàBàCàDàEàFß60à1à2à3à4à5à6à7à8à9àAàBàCàDàEàFß70à1à2à3à4à5à6à7à8à9àAàBàCàDàEàFß80à1à2à3à4à5à6à7",
  "à8à9àAàBàCàDàEàFß90à1à2à3à4à5à6à7à8à9àAàBàCàDàEàFßA0à1à2à3à4à5à6à7à8à9àAàBàCàDàEàFßB0à1à2à3à4à5à",
  "6à7à8à9àAàBàCàDàEàFßC0à1à2à3à4à5à6à7à8à9àAàBàCàDàEàFßD0à1à2à3à4à5à6à7à8à9àAàBàCàDàEàFßE0à1à2à3à4",
  "à5à6à7à8à9àAàBàCàDàEàFßF0à1à2à3à4à5à6à7à8à9àAàBàCàDàEàFÞ900à1à2à3à4à5à6à7à8à9àAàBàCàDàEàFß10à1à2",
  "à3à4à5à6à7à8à9àAàBàCàDàEàFß20à1à2à3à4à5à6à7à8à9àAàBàCàDàEàFß30à1à2à3à4à5à6à7à8à9àAàBàCàDàEàFß40à",
  "1à2à3à4à5à6à7à8à9àAàBàCàDàEàFß50à1à2à3à4à5à6à7à8à9àAàBàCàDàEàFß60à1à2à3à4à5à6à7à8à9àAàBàCàDàEàFß",
  "70à1à2à3à4à5à6à7à8à9àAàBàCàDàEàFß80à1à2à3à4à5à6à7à8à9àAàBàCàDàEàFß90à1à2à3à4à5à6à7à8à9àAàBàCàDàE",
  "àFßA0à1à2à3à4à5à6à7à8à9àAàBàCàDàEàFßB0à1à2à3à4à5à6à7à8à9àAàBàCàDàEàFßC0à1à2à3à4à5à6à7à8à9àAàBàCà",
  "DàEàFßD0à1à2à3à4à5à6à7à8à9àAàBàCàDàEàFßE0à1à2à3à4à5à6à7à8à9àAàBàCàDàEàFßF0à1à2à3à4à5à6à7à8à9àAàB",
  "àCàDàEàFÞA00à1à2à3à4à5à6à7à8à9àAàBàCàDàEàFß10à1à2à3à4à5à6à7à8à9àAàBàCàD#E0001ÀLANGUAGE TAG#E0020",
  "ÀTAG SPACEÄEXCLAMATION MARKÄQUOTATION MARKÄNUMBER SIGNÄDOLLAR SIGNÄPERCENT SIGNÄAMPERSANDÅPOSTRO",
  "PHEÄLEFT PARENTHESISÄRIGHT PARENTHESISÄASTERISKÄPLUS SIGNÄCOMMAÄHYPHEN-MINUSÄFULL STOPÄSOLIDUSÄD",
  "IGIT ZEROÊONEÊTWOËHREEÊFOURËIVEÊSIXËEVENÊEIGHTÊNINEÄCOLONÄSEMICOLONÄLESS-THAN SIGNÄEQUALS SIGNÄG",
  "REATER-THAN SIGNÄQUESTION MARKÄCOMMERCIAL ATÄLATIN CAPITAL LETTER AÙBÙCÙDÙEÙFÙGÙHÙIÙJÙKÙLÙMÙNÙOÙ",
  "PÙQÙRÙSÙTÙUÙVÙWÙXÙYÙZÅEFT SQUARE BRACKETÄREVERSE SOLIDUSÅIGHT SQUARE BRACKETÄCIRCUMFLEX ACCENTÄL",
  "OW LINEÄGRAVE ACCENTÄLATIN SMALL LETTER A×B×C×D×E×F×G×H×I×J×K×L×M×N×O×P×Q×R×S×T×U×V×W×X×Y×ZÅEFT ",
  "CURLY BRACKETÄVERTICAL LINEÄRIGHT CURLY BRACKETÄTILDEÀCANCEL TAG#E0100ÀVARIATION SELECTOR-17Ô8Ô9",
  "Ó20Ô1Ô2Ô3Ô4Ô5Ô6Ô7Ô8Ô9Ó30Ô1Ô2Ô3Ô4Ô5Ô6Ô7Ô8Ô9Ó40Ô1Ô2Ô3Ô4Ô5Ô6Ô7Ô8Ô9Ó50Ô1Ô2Ô3Ô4Ô5Ô6Ô7Ô8Ô9Ó60Ô1Ô2Ô3Ô4Ô",
  "5Ô6Ô7Ô8Ô9Ó70Ô1Ô2Ô3Ô4Ô5Ô6Ô7Ô8Ô9Ó80Ô1Ô2Ô3Ô4Ô5Ô6Ô7Ô8Ô9Ó90Ô1Ô2Ô3Ô4Ô5Ô6Ô7Ô8Ô9Ó100Õ1Õ2Õ3Õ4Õ5Õ6Õ7Õ8Õ9Ô1",
  "0Õ1Õ2Õ3Õ4Õ5Õ6Õ7Õ8Õ9Ô20Õ1Õ2Õ3Õ4Õ5Õ6Õ7Õ8Õ9Ô30Õ1Õ2Õ3Õ4Õ5Õ6Õ7Õ8Õ9Ô40Õ1Õ2Õ3Õ4Õ5Õ6Õ7Õ8Õ9Ô50Õ1Õ2Õ3Õ4Õ5Õ",
  "6Õ7Õ8Õ9Ô60Õ1Õ2Õ3Õ4Õ5Õ6Õ7Õ8Õ9Ô70Õ1Õ2Õ3Õ4Õ5Õ6Õ7Õ8Õ9Ô80Õ1Õ2Õ3Õ4Õ5Õ6Õ7Õ8Õ9Ô90Õ1Õ2Õ3Õ4Õ5Õ6Õ7Õ8Õ9Ó200Õ",
  "1Õ2Õ3Õ4Õ5Õ6Õ7Õ8Õ9Ô10Õ1Õ2Õ3Õ4Õ5Õ6Õ7Õ8Õ9Ô20Õ1Õ2Õ3Õ4Õ5Õ6Õ7Õ8Õ9Ô30Õ1Õ2Õ3Õ4Õ5Õ6Õ7Õ8Õ9Ô40Õ1Õ2Õ3Õ4Õ5Õ6Õ",
  "7Õ8Õ9Ô50Õ1Õ2Õ3Õ4Õ5Õ6"]

/-- The aliases of characters, each with its code point. -/
def characterAliases : String :=
  String.join [
  "#0ÀNUL#0ÃL#1ÀSOH#1ÁTART OF HEADING#2ÉTEXT#2ÂX#3ÀEND OF TEXT#3ÁTX#4ÁND OF TRANSMISSION#4ÁOT#5ÁNQ#",
  "5ÃUIRY#6ÀACK#6ÃNOWLEDGE#7ÁLERT#7ÀBEL#8ÁACKSPACE#8ÁS#9ÀCHARACTER TABULATION#9ÀHORIZONTAL TABULATI",
  "ON#9ÁT#9ÀTAB#AÀEND OF LINE#AÁOL#AÀLF#AÁINE FEED#AÀNEW LINE#AÁL#BÀLINE TABULATION#BÀVERTICAL TABU",
  "LATION#BÁT#CÀFF#CÁORM FEED#DÀCARRIAGE RETURN#DÁR#EÀLOCKING-SHIFT ONE#EÀSHIFT OUT#EÁO#FÀLOCKING-S",
  "HIFT ZERO#FÀSHIFT IN#FÁI#10ÀDATA LINK ESCAPE#10ÁLE#11ÁC1#11ÁEVICE CONTROL ONE#12ÁC2#12ÁEVICE CON",
  "TROL TWO#13ÁC3#13ÁEVICE CONTROL THREE#14ÁC4#14ÁEVICE CONTROL FOUR#15ÀNAK#15ÁEGATIVE ACKNOWLEDGE#",
  "16ÀSYN#16ÃCHRONOUS IDLE#17ÀEND OF TRANSMISSION BLOCK#17ÁTB#18ÀCAN#18ÃCEL#19ÀEND OF MEDIUM#19ÁOM#",
  "1AÀSUB#1AÃSTITUTE#1BÀESC#1BÃAPE#1CÀFILE SEPARATOR#1CÁS#1CÀINFORMATION SEPARATOR FOUR#1DÀGROUP SE",
  "PARATOR#1DÁS#1DÀINFORMATION SEPARATOR THREE#1E×WO#1EÀRECORD SEPARATOR#1EÁS#1FÀINFORMATION SEPARA",
  "TOR ONE#1FÀUNIT SEPARATOR#1FÁS#20ÀSP#7FÀDEL#7FÃETE#80ÀPAD#80ÃDING CHARACTER#81ÀHIGH OCTET PRESET",
  "#81ÁOP#82ÀBPH#82ÁREAK PERMITTED HERE#83ÀNBH#83ÁO BREAK HERE#84ÀIND#84ÃEX#85ÀNEL#85ÂXT LINE#86ÀSS",
  "A#86ÁTART OF SELECTED AREA#87ÀEND OF SELECTED AREA#87ÁSA#88ÀCHARACTER TABULATION SET#88ÀHORIZONT",
  "AL TABULATION SET#88ÁTS#89ÀCHARACTER TABULATION WITH JUSTIFICATION#89ÀHORIZONTAL TABULATION WITH ",
  "JUSTIFICATION#89ÁTJ#8AÀLINE TABULATION SET#8AÀVERTICAL TABULATION SET#8AÁTS#8BÀPARTIAL LINE DOWN",
  "#8BÍFORWARD#8BÁLD#8CÁARTIAL LINE BACKWARD#8CÍUP#8CÁLU#8DÀREVERSE INDEX#8DÈLINE FEED#8DÁI#8EÀSING",
  "LE SHIFT TWO#8EÆ-SHIFT-2#8EÁS2#8FÁINGLE SHIFT THREE#8FÆ-SHIFT-3#8FÁS3#90ÀDCS#90ÁEVICE CONTROL ST",
  "RING#91ÀPRIVATE USE ONE#91Ë-1#91ÁU1#92ÁRIVATE USE TWO#92Ë-2#92ÁU2#93ÀSET TRANSMIT STATE#93ÁTS#94",
  "ÀCANCEL CHARACTER#94ÁCH#95ÀMESSAGE WAITING#95ÁW#96ÀSPA#96ÁTART OF GUARDED AREA#96ÉPROTECTED AREA",
  "#97ÀEND OF GUARDED AREA#97ÇPROTECTED AREA#97ÁPA#98ÀSOS#98ÁTART OF STRING#99ÁGC#99ÁINGLE GRAPHIC ",
  "CHARACTER INTRODUCER#9AÁCI#9AÁINGLE CHARACTER INTRODUCER#9BÀCONTROL SEQUENCE INTRODUCER#9BÁSI#9C",
  "ÀST#9CÂRING TERMINATOR#9DÀOPERATING SYSTEM COMMAND#9DÁSC#9EÀPM#9EÁRIVACY MESSAGE#9FÀAPC#9FÂPLICA",
  "TION PROGRAM COMMAND#A0ÀNBSP#ADÀSHY#1A2ÀLATIN CAPITAL LETTER GHA#1A3ÆSMALL LETTER GHA#34FÀCGJ#61",
  "CÀALM#709ÀSYRIAC SUBLINEAR COLON SKEWED LEFT#CDEÀKANNADA LETTER LLLA#E9DÀLAO LETTER FO FON#E9FÏA",
  "Y#EA3ËRO#EA5ËLO#FD0ÀTIBETAN MARK BKA- SHOG GI MGO RGYAN#11ECÀHANGUL JONGSEONG YESIEUNG-KIYEOK#11",
  "EDÚSSANGKIYEOK#11EEÑSSANGYESIEUNG#11EFÑYESIEUNG-KHIEUKH#180BÀFVS1#180CÃ2#180DÃ3#180EÀMVS#180FÀFV",
  "S4#200BÀZWSP#200CÂNJ#200DÂJ#200EÀLRM#200FÀRLM#202AÀLRE#202BÀRLE#202CÀPDF#202DÀLRO#202EÀRLO#202FÀ",
  "NNBSP#205FÀMMSP#2060ÀWJ#2066ÀLRI#2067ÀRLI#2068ÀFSI#2069ÀPDI#2118ÀWEIERSTRASS ELLIPTIC FUNCTION#2",
  "448ÀMICR ON US SYMBOL#2449ÅDASH SYMBOL#2B7AÀLEFTWARDS TRIANGLE-HEADED ARROW WITH DOUBLE VERTICAL ",
  "STROKE#2B7CÀRIGHTWARDS TRIANGLE-HEADED ARROW WITH DOUBLE VERTICAL STROKE#A015ÀYI SYLLABLE ITERAT",
  "ION MARK#AA6EÀMYANMAR LETTER KHAMTI LLA#FE00ÀVS1#FE01Â2#FE02Â3#FE03Â4#FE04Â5#FE05Â6#FE06Â7#FE07Â",
  "8#FE08Â9#FE09Â10#FE0AÃ1#FE0BÃ2#FE0CÃ3#FE0DÃ4#FE0EÃ5#FE0FÃ6#FE18ÀPRESENTATION FORM FOR VERTICAL R",
  "IGHT WHITE LENTICULAR BRACKET#FEFFÀBOM#FEFFÁYTE ORDER MARK#FEFFÀZWNBSP#122D4ÀCUNEIFORM SIGN NU11 ",
  "TENU#122D5ÔOVER NU11 BUR OVER BUR#16E56ÀMEDEFAIDRIN CAPITAL LETTER H#16E57ÛNG#16E76ÌSMALL LETTER ",
  "H#16E77ÙNG#1B001ÀHENTAIGANA LETTER E-1#1D0C5ÀBYZANTINE MUSICAL SYMBOL FTHORA SKLIRON CHROMA VASI",
  "S#E0100ÀVS17#E0101Ã8#E0102Ã9#E0103Â20#E0104Ã1#E0105Ã2#E0106Ã3#E0107Ã4#E0108Ã5#E0109Ã6#E010AÃ7#E0",
  "10BÃ8#E010CÃ9#E010DÂ30#E010EÃ1#E010FÃ2#E0110Ã3#E0111Ã4#E0112Ã5#E0113Ã6#E0114Ã7#E0115Ã8#E0116Ã9#E",
  "0117Â40#E0118Ã1#E0119Ã2#E011AÃ3#E011BÃ4#E011CÃ5#E011DÃ6#E011EÃ7#E011FÃ8#E0120Ã9#E0121Â50#E0122Ã1",
  "#E0123Ã2#E0124Ã3#E0125Ã4#E0126Ã5#E0127Ã6#E0128Ã7#E0129Ã8#E012AÃ9#E012BÂ60#E012CÃ1#E012DÃ2#E012EÃ",
  "3#E012FÃ4#E0130Ã5#E0131Ã6#E0132Ã7#E0133Ã8#E0134Ã9#E0135Â70#E0136Ã1#E0137Ã2#E0138Ã3#E0139Ã4#E013A",
  "Ã5#E013BÃ6#E013CÃ7#E013DÃ8#E013EÃ9#E013FÂ80#E0140Ã1#E0141Ã2#E0142Ã3#E0143Ã4#E0144Ã5#E0145Ã6#E014",
  "6Ã7#E0147Ã8#E0148Ã9#E0149Â90#E014AÃ1#E014BÃ2#E014CÃ3#E014DÃ4#E014EÃ5#E014FÃ6#E0150Ã7#E0151Ã8#E01",
  "52Ã9#E0153Â100#E0154Ä1#E0155Ä2#E0156Ä3#E0157Ä4#E0158Ä5#E0159Ä6#E015AÄ7#E015BÄ8#E015CÄ9#E015DÃ10#",
  "E015EÄ1#E015FÄ2#E0160Ä3#E0161Ä4#E0162Ä5#E0163Ä6#E0164Ä7#E0165Ä8#E0166Ä9#E0167Ã20#E0168Ä1#E0169Ä2",
  "#E016AÄ3#E016BÄ4#E016CÄ5#E016DÄ6#E016EÄ7#E016FÄ8#E0170Ä9#E0171Ã30#E0172Ä1#E0173Ä2#E0174Ä3#E0175Ä",
  "4#E0176Ä5#E0177Ä6#E0178Ä7#E0179Ä8#E017AÄ9#E017BÃ40#E017CÄ1#E017DÄ2#E017EÄ3#E017FÄ4#E0180Ä5#E0181",
  "Ä6#E0182Ä7#E0183Ä8#E0184Ä9#E0185Ã50#E0186Ä1#E0187Ä2#E0188Ä3#E0189Ä4#E018AÄ5#E018BÄ6#E018CÄ7#E018",
  "DÄ8#E018EÄ9#E018FÃ60#E0190Ä1#E0191Ä2#E0192Ä3#E0193Ä4#E0194Ä5#E0195Ä6#E0196Ä7#E0197Ä8#E0198Ä9#E01",
  "99Ã70#E019AÄ1#E019BÄ2#E019CÄ3#E019DÄ4#E019EÄ5#E019FÄ6#E01A0Ä7#E01A1Ä8#E01A2Ä9#E01A3Ã80#E01A4Ä1#E",
  "01A5Ä2#E01A6Ä3#E01A7Ä4#E01A8Ä5#E01A9Ä6#E01AAÄ7#E01ABÄ8#E01ACÄ9#E01ADÃ90#E01AEÄ1#E01AFÄ2#E01B0Ä3#",
  "E01B1Ä4#E01B2Ä5#E01B3Ä6#E01B4Ä7#E01B5Ä8#E01B6Ä9#E01B7Â200#E01B8Ä1#E01B9Ä2#E01BAÄ3#E01BBÄ4#E01BCÄ",
  "5#E01BDÄ6#E01BEÄ7#E01BFÄ8#E01C0Ä9#E01C1Ã10#E01C2Ä1#E01C3Ä2#E01C4Ä3#E01C5Ä4#E01C6Ä5#E01C7Ä6#E01C8",
  "Ä7#E01C9Ä8#E01CAÄ9#E01CBÃ20#E01CCÄ1#E01CDÄ2#E01CEÄ3#E01CFÄ4#E01D0Ä5#E01D1Ä6#E01D2Ä7#E01D3Ä8#E01D",
  "4Ä9#E01D5Ã30#E01D6Ä1#E01D7Ä2#E01D8Ä3#E01D9Ä4#E01DAÄ5#E01DBÄ6#E01DCÄ7#E01DDÄ8#E01DEÄ9#E01DFÃ40#E0",
  "1E0Ä1#E01E1Ä2#E01E2Ä3#E01E3Ä4#E01E4Ä5#E01E5Ä6#E01E6Ä7#E01E7Ä8#E01E8Ä9#E01E9Ã50#E01EAÄ1#E01EBÄ2#E",
  "01ECÄ3#E01EDÄ4#E01EEÄ5#E01EFÄ6"]

def upperHexValue? (c : Char) : Option Nat :=
  if '0' ≤ c && c ≤ '9' then some (c.toNat - '0'.toNat)
  else if 'A' ≤ c && c ≤ 'F' then some (c.toNat - 'A'.toNat + 10)
  else none

def isShareMark (c : Char) : Bool :=
  c.toNat ≥ 0xC0

/-- The code point of `query` in a table of names, reading the entries one after another:
`name` is the name read so far, `code` its code point, and `hex` the code point being read
after a `#`. -/
def findName (query : Array Char) : List Char → Array Char → Nat → Option Nat → Option Nat
  | [], name, code, _ => if name == query then some code else none
  | c :: rest, name, code, some hex =>
    match upperHexValue? c with
    | some d => findName query rest name code (some (hex * 16 + d))
    | none => findName query rest (name.extract 0 (c.toNat - 0xC0)) hex none
  | c :: rest, name, code, none =>
    if c == '#' || isShareMark c then
      if name == query then some code
      else if c == '#' then findName query rest name code (some 0)
      else findName query rest (name.extract 0 (c.toNat - 0xC0)) (code + 1) none
    else findName query rest (name.push c) code none

def unifiedIdeographs : List (Nat × Nat) :=
  [(0x3400, 0x4DBF), (0x4E00, 0x9FFF), (0x20000, 0x2A6DF), (0x2A700, 0x2B738),
   (0x2B740, 0x2B81D), (0x2B820, 0x2CEA1), (0x2CEB0, 0x2EBE0), (0x30000, 0x3134A)]

def leadingJamo : List String :=
  ["G", "GG", "N", "D", "DD", "R", "M", "B", "BB", "S", "SS", "", "J", "JJ", "C", "K", "T",
   "P", "H"]

def vowelJamo : List String :=
  ["A", "AE", "YA", "YAE", "EO", "E", "YEO", "YE", "O", "WA", "WAE", "OE", "YO", "U", "WEO",
   "WE", "WI", "YU", "EU", "YI", "I"]

def trailingJamo : List String :=
  ["", "G", "GG", "GS", "N", "NJ", "NH", "D", "L", "LG", "LM", "LB", "LS", "LT", "LP", "LH",
   "M", "B", "BS", "S", "SS", "NG", "J", "C", "K", "T", "P", "H"]

def longestJamo (names : List String) (s : List Char) : Option (Nat × List Char) :=
  let fits := (names.zipIdx).filter fun (n, _) => n.toList.isPrefixOf s
  match fits.foldl (fun best (n, i) => match best with
      | some (m, _) => if n.length > m.length then some (n, i) else best
      | none => some (n, i)) none with
  | some (n, i) => some (i, s.drop n.length)
  | none => none

def syllableOf (s : List Char) : Option Nat := do
  let (l, s) ← longestJamo leadingJamo s
  let (v, s) ← longestJamo vowelJamo s
  let (t, s) ← longestJamo trailingJamo s
  if s.isEmpty then some (0xAC00 + (l * 21 + v) * 28 + t) else none

/-- The code point a name stands for. -/
def codeOfName? (name : String) : Option Nat :=
  let cs := name.toList
  let upper := cs.map Char.toUpper
  if cs.isEmpty then none
  else if cs.take 16 == "HANGUL SYLLABLE ".toList then syllableOf (cs.drop 16)
  else if cs.take 22 == "CJK UNIFIED IDEOGRAPH-".toList then
    let digits := cs.drop 22
    if digits.length != 4 && digits.length != 5 then none
    else do
      let v ← digits.foldlM (fun acc c => (upperHexValue? c).map (acc * 16 + ·)) 0
      if unifiedIdeographs.any (fun (a, b) => a ≤ v && v ≤ b) then some v else none
  else
    let query := upper.toArray
    match findName query characterNames.toList #[] 0 none with
    | some c => some c
    | none => findName query characterAliases.toList #[] 0 none

end Weave.Text
