import Weave.Text.Stringprep.Table

/-! # Compatibility decompositions of Unicode 3.2

The full compatibility decomposition of every character of Unicode 3.2 that has one,
Hangul syllables apart, whose decomposition is computed: each entry is the character, then
the characters it decomposes into, each decomposed as far as it goes and put in canonical
order, then a tab. A character that Unicode 3.2 leaves unassigned has no decomposition.
-/

namespace Weave.Text.Stringprep

/-- The decompositions, entry after entry. -/
def decompositionText : String := String.join [
  "\u00A0\u0020\t¨\u0020\u0308\tªa\t¯\u0020\u0304\t²2\t³3\t´\u0020\u0301\tµμ\t¸\u0020\u0327\t¹1\tºo\t¼1⁄4\t",
  "½1⁄2\t¾3⁄4\tÀA\u0300\tÁA\u0301\tÂA\u0302\tÃA\u0303\tÄA\u0308\tÅA\u030A\tÇC\u0327\tÈE\u0300\tÉE\u0301\tÊE\u0302\t",
  "ËE\u0308\tÌI\u0300\tÍI\u0301\tÎI\u0302\tÏI\u0308\tÑN\u0303\tÒO\u0300\tÓO\u0301\tÔO\u0302\tÕO\u0303\tÖO\u0308\tÙU\u0300\t",
  "ÚU\u0301\tÛU\u0302\tÜU\u0308\tÝY\u0301\tàa\u0300\táa\u0301\tâa\u0302\tãa\u0303\täa\u0308\tåa\u030A\tçc\u0327\tèe\u0300\t",
  "ée\u0301\têe\u0302\tëe\u0308\tìi\u0300\tíi\u0301\tîi\u0302\tïi\u0308\tñn\u0303\tòo\u0300\tóo\u0301\tôo\u0302\tõo\u0303\t",
  "öo\u0308\tùu\u0300\túu\u0301\tûu\u0302\tüu\u0308\týy\u0301\tÿy\u0308\tĀA\u0304\tāa\u0304\tĂA\u0306\tăa\u0306\tĄA\u0328\t",
  "ąa\u0328\tĆC\u0301\tćc\u0301\tĈC\u0302\tĉc\u0302\tĊC\u0307\tċc\u0307\tČC\u030C\tčc\u030C\tĎD\u030C\tďd\u030C\tĒE\u0304\t",
  "ēe\u0304\tĔE\u0306\tĕe\u0306\tĖE\u0307\tėe\u0307\tĘE\u0328\tęe\u0328\tĚE\u030C\těe\u030C\tĜG\u0302\tĝg\u0302\tĞG\u0306\t",
  "ğg\u0306\tĠG\u0307\tġg\u0307\tĢG\u0327\tģg\u0327\tĤH\u0302\tĥh\u0302\tĨI\u0303\tĩi\u0303\tĪI\u0304\tīi\u0304\tĬI\u0306\t",
  "ĭi\u0306\tĮI\u0328\tįi\u0328\tİI\u0307\tĲIJ\tĳij\tĴJ\u0302\tĵj\u0302\tĶK\u0327\tķk\u0327\tĹL\u0301\tĺl\u0301\t",
  "ĻL\u0327\tļl\u0327\tĽL\u030C\tľl\u030C\tĿL·\tŀl·\tŃN\u0301\tńn\u0301\tŅN\u0327\tņn\u0327\tŇN\u030C\tňn\u030C\t",
  "ŉʼn\tŌO\u0304\tōo\u0304\tŎO\u0306\tŏo\u0306\tŐO\u030B\tőo\u030B\tŔR\u0301\tŕr\u0301\tŖR\u0327\tŗr\u0327\tŘR\u030C\t",
  "řr\u030C\tŚS\u0301\tśs\u0301\tŜS\u0302\tŝs\u0302\tŞS\u0327\tşs\u0327\tŠS\u030C\tšs\u030C\tŢT\u0327\tţt\u0327\tŤT\u030C\t",
  "ťt\u030C\tŨU\u0303\tũu\u0303\tŪU\u0304\tūu\u0304\tŬU\u0306\tŭu\u0306\tŮU\u030A\tůu\u030A\tŰU\u030B\tűu\u030B\tŲU\u0328\t",
  "ųu\u0328\tŴW\u0302\tŵw\u0302\tŶY\u0302\tŷy\u0302\tŸY\u0308\tŹZ\u0301\tźz\u0301\tŻZ\u0307\tżz\u0307\tŽZ\u030C\tžz\u030C\t",
  "ſs\tƠO\u031B\tơo\u031B\tƯU\u031B\tưu\u031B\tǄDZ\u030C\tǅDz\u030C\tǆdz\u030C\tǇLJ\tǈLj\tǉlj\tǊNJ\t",
  "ǋNj\tǌnj\tǍA\u030C\tǎa\u030C\tǏI\u030C\tǐi\u030C\tǑO\u030C\tǒo\u030C\tǓU\u030C\tǔu\u030C\tǕU\u0308\u0304\tǖu\u0308\u0304\t",
  "ǗU\u0308\u0301\tǘu\u0308\u0301\tǙU\u0308\u030C\tǚu\u0308\u030C\tǛU\u0308\u0300\tǜu\u0308\u0300\tǞA\u0308\u0304\tǟa\u0308\u0304\tǠA\u0307\u0304\tǡa\u0307\u0304\tǢÆ\u0304\tǣæ\u0304\t",
  "ǦG\u030C\tǧg\u030C\tǨK\u030C\tǩk\u030C\tǪO\u0328\tǫo\u0328\tǬO\u0328\u0304\tǭo\u0328\u0304\tǮƷ\u030C\tǯʒ\u030C\tǰj\u030C\tǱDZ\t",
  "ǲDz\tǳdz\tǴG\u0301\tǵg\u0301\tǸN\u0300\tǹn\u0300\tǺA\u030A\u0301\tǻa\u030A\u0301\tǼÆ\u0301\tǽæ\u0301\tǾØ\u0301\tǿø\u0301\t",
  "ȀA\u030F\tȁa\u030F\tȂA\u0311\tȃa\u0311\tȄE\u030F\tȅe\u030F\tȆE\u0311\tȇe\u0311\tȈI\u030F\tȉi\u030F\tȊI\u0311\tȋi\u0311\t",
  "ȌO\u030F\tȍo\u030F\tȎO\u0311\tȏo\u0311\tȐR\u030F\tȑr\u030F\tȒR\u0311\tȓr\u0311\tȔU\u030F\tȕu\u030F\tȖU\u0311\tȗu\u0311\t",
  "ȘS\u0326\tșs\u0326\tȚT\u0326\tțt\u0326\tȞH\u030C\tȟh\u030C\tȦA\u0307\tȧa\u0307\tȨE\u0327\tȩe\u0327\tȪO\u0308\u0304\tȫo\u0308\u0304\t",
  "ȬO\u0303\u0304\tȭo\u0303\u0304\tȮO\u0307\tȯo\u0307\tȰO\u0307\u0304\tȱo\u0307\u0304\tȲY\u0304\tȳy\u0304\tʰh\tʱɦ\tʲj\tʳr\t",
  "ʴɹ\tʵɻ\tʶʁ\tʷw\tʸy\t˘\u0020\u0306\t˙\u0020\u0307\t˚\u0020\u030A\t˛\u0020\u0328\t˜\u0020\u0303\t˝\u0020\u030B\tˠɣ\t",
  "ˡl\tˢs\tˣx\tˤʕ\t\u0340\u0300\t\u0341\u0301\t\u0343\u0313\t\u0344\u0308\u0301\tʹʹ\tͺ\u0020\u0345\t;;\t΄\u0020\u0301\t",
  "΅\u0020\u0308\u0301\tΆΑ\u0301\t··\tΈΕ\u0301\tΉΗ\u0301\tΊΙ\u0301\tΌΟ\u0301\tΎΥ\u0301\tΏΩ\u0301\tΐι\u0308\u0301\tΪΙ\u0308\tΫΥ\u0308\t",
  "άα\u0301\tέε\u0301\tήη\u0301\tίι\u0301\tΰυ\u0308\u0301\tϊι\u0308\tϋυ\u0308\tόο\u0301\tύυ\u0301\tώω\u0301\tϐβ\tϑθ\t",
  "ϒΥ\tϓΥ\u0301\tϔΥ\u0308\tϕφ\tϖπ\tϰκ\tϱρ\tϲς\tϴΘ\tϵε\tЀЕ\u0300\tЁЕ\u0308\t",
  "ЃГ\u0301\tЇІ\u0308\tЌК\u0301\tЍИ\u0300\tЎУ\u0306\tЙИ\u0306\tйи\u0306\tѐе\u0300\tёе\u0308\tѓг\u0301\tїі\u0308\tќк\u0301\t",
  "ѝи\u0300\tўу\u0306\tѶѴ\u030F\tѷѵ\u030F\tӁЖ\u0306\tӂж\u0306\tӐА\u0306\tӑа\u0306\tӒА\u0308\tӓа\u0308\tӖЕ\u0306\tӗе\u0306\t",
  "ӚӘ\u0308\tӛә\u0308\tӜЖ\u0308\tӝж\u0308\tӞЗ\u0308\tӟз\u0308\tӢИ\u0304\tӣи\u0304\tӤИ\u0308\tӥи\u0308\tӦО\u0308\tӧо\u0308\t",
  "ӪӨ\u0308\tӫө\u0308\tӬЭ\u0308\tӭэ\u0308\tӮУ\u0304\tӯу\u0304\tӰУ\u0308\tӱу\u0308\tӲУ\u030B\tӳу\u030B\tӴЧ\u0308\tӵч\u0308\t",
  "ӸЫ\u0308\tӹы\u0308\tևեւ\tآا\u0653\tأا\u0654\tؤو\u0654\tإا\u0655\tئي\u0654\tٵاٴ\tٶوٴ\tٷۇٴ\tٸيٴ\t",
  "ۀە\u0654\tۂہ\u0654\tۓے\u0654\tऩन\u093C\tऱर\u093C\tऴळ\u093C\tक़क\u093C\tख़ख\u093C\tग़ग\u093C\tज़ज\u093C\tड़ड\u093C\tढ़ढ\u093C\t",
  "फ़फ\u093C\tय़य\u093C\t\u09CB\u09C7\u09BE\t\u09CC\u09C7\u09D7\tড়ড\u09BC\tঢ়ঢ\u09BC\tয়য\u09BC\tਲ਼ਲ\u0A3C\tਸ਼ਸ\u0A3C\tਖ਼ਖ\u0A3C\tਗ਼ਗ\u0A3C\tਜ਼ਜ\u0A3C\t",
  "ਫ਼ਫ\u0A3C\t\u0B48\u0B47\u0B56\t\u0B4B\u0B47\u0B3E\t\u0B4C\u0B47\u0B57\tଡ଼ଡ\u0B3C\tଢ଼ଢ\u0B3C\tஔஒ\u0BD7\t\u0BCA\u0BC6\u0BBE\t\u0BCB\u0BC7\u0BBE\t\u0BCC\u0BC6\u0BD7\t\u0C48\u0C46\u0C56\t\u0CC0\u0CBF\u0CD5\t",
  "\u0CC7\u0CC6\u0CD5\t\u0CC8\u0CC6\u0CD6\t\u0CCA\u0CC6\u0CC2\t\u0CCB\u0CC6\u0CC2\u0CD5\t\u0D4A\u0D46\u0D3E\t\u0D4B\u0D47\u0D3E\t\u0D4C\u0D46\u0D57\t\u0DDA\u0DD9\u0DCA\t\u0DDC\u0DD9\u0DCF\t\u0DDD\u0DD9\u0DCF\u0DCA\t\u0DDE\u0DD9\u0DDF\tำ\u0E4Dา\t",
  "ຳ\u0ECDາ\tໜຫນ\tໝຫມ\t༌་\tགྷག\u0FB7\tཌྷཌ\u0FB7\tདྷད\u0FB7\tབྷབ\u0FB7\tཛྷཛ\u0FB7\tཀྵཀ\u0FB5\t\u0F73\u0F71\u0F72\t\u0F75\u0F71\u0F74\t",
  "\u0F76\u0FB2\u0F80\t\u0F77\u0FB2\u0F71\u0F80\t\u0F78\u0FB3\u0F80\t\u0F79\u0FB3\u0F71\u0F80\t\u0F81\u0F71\u0F80\t\u0F93\u0F92\u0FB7\t\u0F9D\u0F9C\u0FB7\t\u0FA2\u0FA1\u0FB7\t\u0FA7\u0FA6\u0FB7\t\u0FAC\u0FAB\u0FB7\t\u0FB9\u0F90\u0FB5\tဦဥ\u102E\t",
  "ḀA\u0325\tḁa\u0325\tḂB\u0307\tḃb\u0307\tḄB\u0323\tḅb\u0323\tḆB\u0331\tḇb\u0331\tḈC\u0327\u0301\tḉc\u0327\u0301\tḊD\u0307\tḋd\u0307\t",
  "ḌD\u0323\tḍd\u0323\tḎD\u0331\tḏd\u0331\tḐD\u0327\tḑd\u0327\tḒD\u032D\tḓd\u032D\tḔE\u0304\u0300\tḕe\u0304\u0300\tḖE\u0304\u0301\tḗe\u0304\u0301\t",
  "ḘE\u032D\tḙe\u032D\tḚE\u0330\tḛe\u0330\tḜE\u0327\u0306\tḝe\u0327\u0306\tḞF\u0307\tḟf\u0307\tḠG\u0304\tḡg\u0304\tḢH\u0307\tḣh\u0307\t",
  "ḤH\u0323\tḥh\u0323\tḦH\u0308\tḧh\u0308\tḨH\u0327\tḩh\u0327\tḪH\u032E\tḫh\u032E\tḬI\u0330\tḭi\u0330\tḮI\u0308\u0301\tḯi\u0308\u0301\t",
  "ḰK\u0301\tḱk\u0301\tḲK\u0323\tḳk\u0323\tḴK\u0331\tḵk\u0331\tḶL\u0323\tḷl\u0323\tḸL\u0323\u0304\tḹl\u0323\u0304\tḺL\u0331\tḻl\u0331\t",
  "ḼL\u032D\tḽl\u032D\tḾM\u0301\tḿm\u0301\tṀM\u0307\tṁm\u0307\tṂM\u0323\tṃm\u0323\tṄN\u0307\tṅn\u0307\tṆN\u0323\tṇn\u0323\t",
  "ṈN\u0331\tṉn\u0331\tṊN\u032D\tṋn\u032D\tṌO\u0303\u0301\tṍo\u0303\u0301\tṎO\u0303\u0308\tṏo\u0303\u0308\tṐO\u0304\u0300\tṑo\u0304\u0300\tṒO\u0304\u0301\tṓo\u0304\u0301\t",
  "ṔP\u0301\tṕp\u0301\tṖP\u0307\tṗp\u0307\tṘR\u0307\tṙr\u0307\tṚR\u0323\tṛr\u0323\tṜR\u0323\u0304\tṝr\u0323\u0304\tṞR\u0331\tṟr\u0331\t",
  "ṠS\u0307\tṡs\u0307\tṢS\u0323\tṣs\u0323\tṤS\u0301\u0307\tṥs\u0301\u0307\tṦS\u030C\u0307\tṧs\u030C\u0307\tṨS\u0323\u0307\tṩs\u0323\u0307\tṪT\u0307\tṫt\u0307\t",
  "ṬT\u0323\tṭt\u0323\tṮT\u0331\tṯt\u0331\tṰT\u032D\tṱt\u032D\tṲU\u0324\tṳu\u0324\tṴU\u0330\tṵu\u0330\tṶU\u032D\tṷu\u032D\t",
  "ṸU\u0303\u0301\tṹu\u0303\u0301\tṺU\u0304\u0308\tṻu\u0304\u0308\tṼV\u0303\tṽv\u0303\tṾV\u0323\tṿv\u0323\tẀW\u0300\tẁw\u0300\tẂW\u0301\tẃw\u0301\t",
  "ẄW\u0308\tẅw\u0308\tẆW\u0307\tẇw\u0307\tẈW\u0323\tẉw\u0323\tẊX\u0307\tẋx\u0307\tẌX\u0308\tẍx\u0308\tẎY\u0307\tẏy\u0307\t",
  "ẐZ\u0302\tẑz\u0302\tẒZ\u0323\tẓz\u0323\tẔZ\u0331\tẕz\u0331\tẖh\u0331\tẗt\u0308\tẘw\u030A\tẙy\u030A\tẚaʾ\tẛs\u0307\t",
  "ẠA\u0323\tạa\u0323\tẢA\u0309\tảa\u0309\tẤA\u0302\u0301\tấa\u0302\u0301\tẦA\u0302\u0300\tầa\u0302\u0300\tẨA\u0302\u0309\tẩa\u0302\u0309\tẪA\u0302\u0303\tẫa\u0302\u0303\t",
  "ẬA\u0323\u0302\tậa\u0323\u0302\tẮA\u0306\u0301\tắa\u0306\u0301\tẰA\u0306\u0300\tằa\u0306\u0300\tẲA\u0306\u0309\tẳa\u0306\u0309\tẴA\u0306\u0303\tẵa\u0306\u0303\tẶA\u0323\u0306\tặa\u0323\u0306\t",
  "ẸE\u0323\tẹe\u0323\tẺE\u0309\tẻe\u0309\tẼE\u0303\tẽe\u0303\tẾE\u0302\u0301\tếe\u0302\u0301\tỀE\u0302\u0300\tềe\u0302\u0300\tỂE\u0302\u0309\tểe\u0302\u0309\t",
  "ỄE\u0302\u0303\tễe\u0302\u0303\tỆE\u0323\u0302\tệe\u0323\u0302\tỈI\u0309\tỉi\u0309\tỊI\u0323\tịi\u0323\tỌO\u0323\tọo\u0323\tỎO\u0309\tỏo\u0309\t",
  "ỐO\u0302\u0301\tốo\u0302\u0301\tỒO\u0302\u0300\tồo\u0302\u0300\tỔO\u0302\u0309\tổo\u0302\u0309\tỖO\u0302\u0303\tỗo\u0302\u0303\tỘO\u0323\u0302\tộo\u0323\u0302\tỚO\u031B\u0301\tớo\u031B\u0301\t",
  "ỜO\u031B\u0300\tờo\u031B\u0300\tỞO\u031B\u0309\tởo\u031B\u0309\tỠO\u031B\u0303\tỡo\u031B\u0303\tỢO\u031B\u0323\tợo\u031B\u0323\tỤU\u0323\tụu\u0323\tỦU\u0309\tủu\u0309\t",
  "ỨU\u031B\u0301\tứu\u031B\u0301\tỪU\u031B\u0300\từu\u031B\u0300\tỬU\u031B\u0309\tửu\u031B\u0309\tỮU\u031B\u0303\tữu\u031B\u0303\tỰU\u031B\u0323\tựu\u031B\u0323\tỲY\u0300\tỳy\u0300\t",
  "ỴY\u0323\tỵy\u0323\tỶY\u0309\tỷy\u0309\tỸY\u0303\tỹy\u0303\tἀα\u0313\tἁα\u0314\tἂα\u0313\u0300\tἃα\u0314\u0300\tἄα\u0313\u0301\tἅα\u0314\u0301\t",
  "ἆα\u0313\u0342\tἇα\u0314\u0342\tἈΑ\u0313\tἉΑ\u0314\tἊΑ\u0313\u0300\tἋΑ\u0314\u0300\tἌΑ\u0313\u0301\tἍΑ\u0314\u0301\tἎΑ\u0313\u0342\tἏΑ\u0314\u0342\tἐε\u0313\tἑε\u0314\t",
  "ἒε\u0313\u0300\tἓε\u0314\u0300\tἔε\u0313\u0301\tἕε\u0314\u0301\tἘΕ\u0313\tἙΕ\u0314\tἚΕ\u0313\u0300\tἛΕ\u0314\u0300\tἜΕ\u0313\u0301\tἝΕ\u0314\u0301\tἠη\u0313\tἡη\u0314\t",
  "ἢη\u0313\u0300\tἣη\u0314\u0300\tἤη\u0313\u0301\tἥη\u0314\u0301\tἦη\u0313\u0342\tἧη\u0314\u0342\tἨΗ\u0313\tἩΗ\u0314\tἪΗ\u0313\u0300\tἫΗ\u0314\u0300\tἬΗ\u0313\u0301\tἭΗ\u0314\u0301\t",
  "ἮΗ\u0313\u0342\tἯΗ\u0314\u0342\tἰι\u0313\tἱι\u0314\tἲι\u0313\u0300\tἳι\u0314\u0300\tἴι\u0313\u0301\tἵι\u0314\u0301\tἶι\u0313\u0342\tἷι\u0314\u0342\tἸΙ\u0313\tἹΙ\u0314\t",
  "ἺΙ\u0313\u0300\tἻΙ\u0314\u0300\tἼΙ\u0313\u0301\tἽΙ\u0314\u0301\tἾΙ\u0313\u0342\tἿΙ\u0314\u0342\tὀο\u0313\tὁο\u0314\tὂο\u0313\u0300\tὃο\u0314\u0300\tὄο\u0313\u0301\tὅο\u0314\u0301\t",
  "ὈΟ\u0313\tὉΟ\u0314\tὊΟ\u0313\u0300\tὋΟ\u0314\u0300\tὌΟ\u0313\u0301\tὍΟ\u0314\u0301\tὐυ\u0313\tὑυ\u0314\tὒυ\u0313\u0300\tὓυ\u0314\u0300\tὔυ\u0313\u0301\tὕυ\u0314\u0301\t",
  "ὖυ\u0313\u0342\tὗυ\u0314\u0342\tὙΥ\u0314\tὛΥ\u0314\u0300\tὝΥ\u0314\u0301\tὟΥ\u0314\u0342\tὠω\u0313\tὡω\u0314\tὢω\u0313\u0300\tὣω\u0314\u0300\tὤω\u0313\u0301\tὥω\u0314\u0301\t",
  "ὦω\u0313\u0342\tὧω\u0314\u0342\tὨΩ\u0313\tὩΩ\u0314\tὪΩ\u0313\u0300\tὫΩ\u0314\u0300\tὬΩ\u0313\u0301\tὭΩ\u0314\u0301\tὮΩ\u0313\u0342\tὯΩ\u0314\u0342\tὰα\u0300\tάα\u0301\t",
  "ὲε\u0300\tέε\u0301\tὴη\u0300\tήη\u0301\tὶι\u0300\tίι\u0301\tὸο\u0300\tόο\u0301\tὺυ\u0300\tύυ\u0301\tὼω\u0300\tώω\u0301\t",
  "ᾀα\u0313\u0345\tᾁα\u0314\u0345\tᾂα\u0313\u0300\u0345\tᾃα\u0314\u0300\u0345\tᾄα\u0313\u0301\u0345\tᾅα\u0314\u0301\u0345\tᾆα\u0313\u0342\u0345\tᾇα\u0314\u0342\u0345\tᾈΑ\u0313\u0345\tᾉΑ\u0314\u0345\tᾊΑ\u0313\u0300\u0345\tᾋΑ\u0314\u0300\u0345\t",
  "ᾌΑ\u0313\u0301\u0345\tᾍΑ\u0314\u0301\u0345\tᾎΑ\u0313\u0342\u0345\tᾏΑ\u0314\u0342\u0345\tᾐη\u0313\u0345\tᾑη\u0314\u0345\tᾒη\u0313\u0300\u0345\tᾓη\u0314\u0300\u0345\tᾔη\u0313\u0301\u0345\tᾕη\u0314\u0301\u0345\tᾖη\u0313\u0342\u0345\tᾗη\u0314\u0342\u0345\t",
  "ᾘΗ\u0313\u0345\tᾙΗ\u0314\u0345\tᾚΗ\u0313\u0300\u0345\tᾛΗ\u0314\u0300\u0345\tᾜΗ\u0313\u0301\u0345\tᾝΗ\u0314\u0301\u0345\tᾞΗ\u0313\u0342\u0345\tᾟΗ\u0314\u0342\u0345\tᾠω\u0313\u0345\tᾡω\u0314\u0345\tᾢω\u0313\u0300\u0345\tᾣω\u0314\u0300\u0345\t",
  "ᾤω\u0313\u0301\u0345\tᾥω\u0314\u0301\u0345\tᾦω\u0313\u0342\u0345\tᾧω\u0314\u0342\u0345\tᾨΩ\u0313\u0345\tᾩΩ\u0314\u0345\tᾪΩ\u0313\u0300\u0345\tᾫΩ\u0314\u0300\u0345\tᾬΩ\u0313\u0301\u0345\tᾭΩ\u0314\u0301\u0345\tᾮΩ\u0313\u0342\u0345\tᾯΩ\u0314\u0342\u0345\t",
  "ᾰα\u0306\tᾱα\u0304\tᾲα\u0300\u0345\tᾳα\u0345\tᾴα\u0301\u0345\tᾶα\u0342\tᾷα\u0342\u0345\tᾸΑ\u0306\tᾹΑ\u0304\tᾺΑ\u0300\tΆΑ\u0301\tᾼΑ\u0345\t",
  "᾽\u0020\u0313\tιι\t᾿\u0020\u0313\t῀\u0020\u0342\t῁\u0020\u0308\u0342\tῂη\u0300\u0345\tῃη\u0345\tῄη\u0301\u0345\tῆη\u0342\tῇη\u0342\u0345\tῈΕ\u0300\tΈΕ\u0301\t",
  "ῊΗ\u0300\tΉΗ\u0301\tῌΗ\u0345\t῍\u0020\u0313\u0300\t῎\u0020\u0313\u0301\t῏\u0020\u0313\u0342\tῐι\u0306\tῑι\u0304\tῒι\u0308\u0300\tΐι\u0308\u0301\tῖι\u0342\tῗι\u0308\u0342\t",
  "ῘΙ\u0306\tῙΙ\u0304\tῚΙ\u0300\tΊΙ\u0301\t῝\u0020\u0314\u0300\t῞\u0020\u0314\u0301\t῟\u0020\u0314\u0342\tῠυ\u0306\tῡυ\u0304\tῢυ\u0308\u0300\tΰυ\u0308\u0301\tῤρ\u0313\t",
  "ῥρ\u0314\tῦυ\u0342\tῧυ\u0308\u0342\tῨΥ\u0306\tῩΥ\u0304\tῪΥ\u0300\tΎΥ\u0301\tῬΡ\u0314\t῭\u0020\u0308\u0300\t΅\u0020\u0308\u0301\t``\tῲω\u0300\u0345\t",
  "ῳω\u0345\tῴω\u0301\u0345\tῶω\u0342\tῷω\u0342\u0345\tῸΟ\u0300\tΌΟ\u0301\tῺΩ\u0300\tΏΩ\u0301\tῼΩ\u0345\t´\u0020\u0301\t῾\u0020\u0314\t\u2000\u0020\t",
  "\u2001\u0020\t\u2002\u0020\t\u2003\u0020\t\u2004\u0020\t\u2005\u0020\t\u2006\u0020\t\u2007\u0020\t\u2008\u0020\t\u2009\u0020\t\u200A\u0020\t‑‐\t‗\u0020\u0333\t",
  "․.\t‥..\t…...\t\u202F\u0020\t″′′\t‴′′′\t‶‵‵\t‷‵‵‵\t‼!!\t‾\u0020\u0305\t⁇??\t⁈?!\t",
  "⁉!?\t⁗′′′′\t\u205F\u0020\t⁰0\tⁱi\t⁴4\t⁵5\t⁶6\t⁷7\t⁸8\t⁹9\t⁺+\t",
  "⁻−\t⁼=\t⁽(\t⁾)\tⁿn\t₀0\t₁1\t₂2\t₃3\t₄4\t₅5\t₆6\t",
  "₇7\t₈8\t₉9\t₊+\t₋−\t₌=\t₍(\t₎)\t₨Rs\t℀a/c\t℁a/s\tℂC\t",
  "℃°C\t℅c/o\t℆c/u\tℇƐ\t℉°F\tℊg\tℋH\tℌH\tℍH\tℎh\tℏħ\tℐI\t",
  "ℑI\tℒL\tℓl\tℕN\t№No\tℙP\tℚQ\tℛR\tℜR\tℝR\t℠SM\t℡TEL\t",
  "™TM\tℤZ\tΩΩ\tℨZ\tKK\tÅA\u030A\tℬB\tℭC\tℯe\tℰE\tℱF\tℳM\t",
  "ℴo\tℵא\tℶב\tℷג\tℸד\tℹi\tℽγ\tℾΓ\tℿΠ\t⅀∑\tⅅD\tⅆd\t",
  "ⅇe\tⅈi\tⅉj\t⅓1⁄3\t⅔2⁄3\t⅕1⁄5\t⅖2⁄5\t⅗3⁄5\t⅘4⁄5\t⅙1⁄6\t⅚5⁄6\t⅛1⁄8\t",
  "⅜3⁄8\t⅝5⁄8\t⅞7⁄8\t⅟1⁄\tⅠI\tⅡII\tⅢIII\tⅣIV\tⅤV\tⅥVI\tⅦVII\tⅧVIII\t",
  "ⅨIX\tⅩX\tⅪXI\tⅫXII\tⅬL\tⅭC\tⅮD\tⅯM\tⅰi\tⅱii\tⅲiii\tⅳiv\t",
  "ⅴv\tⅵvi\tⅶvii\tⅷviii\tⅸix\tⅹx\tⅺxi\tⅻxii\tⅼl\tⅽc\tⅾd\tⅿm\t",
  "↚←\u0338\t↛→\u0338\t↮↔\u0338\t⇍⇐\u0338\t⇎⇔\u0338\t⇏⇒\u0338\t∄∃\u0338\t∉∈\u0338\t∌∋\u0338\t∤∣\u0338\t∦∥\u0338\t∬∫∫\t",
  "∭∫∫∫\t∯∮∮\t∰∮∮∮\t≁∼\u0338\t≄≃\u0338\t≇≅\u0338\t≉≈\u0338\t≠=\u0338\t≢≡\u0338\t≭≍\u0338\t≮<\u0338\t≯>\u0338\t",
  "≰≤\u0338\t≱≥\u0338\t≴≲\u0338\t≵≳\u0338\t≸≶\u0338\t≹≷\u0338\t⊀≺\u0338\t⊁≻\u0338\t⊄⊂\u0338\t⊅⊃\u0338\t⊈⊆\u0338\t⊉⊇\u0338\t",
  "⊬⊢\u0338\t⊭⊨\u0338\t⊮⊩\u0338\t⊯⊫\u0338\t⋠≼\u0338\t⋡≽\u0338\t⋢⊑\u0338\t⋣⊒\u0338\t⋪⊲\u0338\t⋫⊳\u0338\t⋬⊴\u0338\t⋭⊵\u0338\t",
  "〈〈\t〉〉\t①1\t②2\t③3\t④4\t⑤5\t⑥6\t⑦7\t⑧8\t⑨9\t⑩10\t",
  "⑪11\t⑫12\t⑬13\t⑭14\t⑮15\t⑯16\t⑰17\t⑱18\t⑲19\t⑳20\t⑴(1)\t⑵(2)\t",
  "⑶(3)\t⑷(4)\t⑸(5)\t⑹(6)\t⑺(7)\t⑻(8)\t⑼(9)\t⑽(10)\t⑾(11)\t⑿(12)\t⒀(13)\t⒁(14)\t",
  "⒂(15)\t⒃(16)\t⒄(17)\t⒅(18)\t⒆(19)\t⒇(20)\t⒈1.\t⒉2.\t⒊3.\t⒋4.\t⒌5.\t⒍6.\t",
  "⒎7.\t⒏8.\t⒐9.\t⒑10.\t⒒11.\t⒓12.\t⒔13.\t⒕14.\t⒖15.\t⒗16.\t⒘17.\t⒙18.\t",
  "⒚19.\t⒛20.\t⒜(a)\t⒝(b)\t⒞(c)\t⒟(d)\t⒠(e)\t⒡(f)\t⒢(g)\t⒣(h)\t⒤(i)\t⒥(j)\t",
  "⒦(k)\t⒧(l)\t⒨(m)\t⒩(n)\t⒪(o)\t⒫(p)\t⒬(q)\t⒭(r)\t⒮(s)\t⒯(t)\t⒰(u)\t⒱(v)\t",
  "⒲(w)\t⒳(x)\t⒴(y)\t⒵(z)\tⒶA\tⒷB\tⒸC\tⒹD\tⒺE\tⒻF\tⒼG\tⒽH\t",
  "ⒾI\tⒿJ\tⓀK\tⓁL\tⓂM\tⓃN\tⓄO\tⓅP\tⓆQ\tⓇR\tⓈS\tⓉT\t",
  "ⓊU\tⓋV\tⓌW\tⓍX\tⓎY\tⓏZ\tⓐa\tⓑb\tⓒc\tⓓd\tⓔe\tⓕf\t",
  "ⓖg\tⓗh\tⓘi\tⓙj\tⓚk\tⓛl\tⓜm\tⓝn\tⓞo\tⓟp\tⓠq\tⓡr\t",
  "ⓢs\tⓣt\tⓤu\tⓥv\tⓦw\tⓧx\tⓨy\tⓩz\t⓪0\t⨌∫∫∫∫\t⩴::=\t⩵==\t",
  "⩶===\t⫝̸⫝\u0338\t⺟母\t⻳龟\t⼀一\t⼁丨\t⼂丶\t⼃丿\t⼄乙\t⼅亅\t⼆二\t⼇亠\t",
  "⼈人\t⼉儿\t⼊入\t⼋八\t⼌冂\t⼍冖\t⼎冫\t⼏几\t⼐凵\t⼑刀\t⼒力\t⼓勹\t",
  "⼔匕\t⼕匚\t⼖匸\t⼗十\t⼘卜\t⼙卩\t⼚厂\t⼛厶\t⼜又\t⼝口\t⼞囗\t⼟土\t",
  "⼠士\t⼡夂\t⼢夊\t⼣夕\t⼤大\t⼥女\t⼦子\t⼧宀\t⼨寸\t⼩小\t⼪尢\t⼫尸\t",
  "⼬屮\t⼭山\t⼮巛\t⼯工\t⼰己\t⼱巾\t⼲干\t⼳幺\t⼴广\t⼵廴\t⼶廾\t⼷弋\t",
  "⼸弓\t⼹彐\t⼺彡\t⼻彳\t⼼心\t⼽戈\t⼾戶\t⼿手\t⽀支\t⽁攴\t⽂文\t⽃斗\t",
  "⽄斤\t⽅方\t⽆无\t⽇日\t⽈曰\t⽉月\t⽊木\t⽋欠\t⽌止\t⽍歹\t⽎殳\t⽏毋\t",
  "⽐比\t⽑毛\t⽒氏\t⽓气\t⽔水\t⽕火\t⽖爪\t⽗父\t⽘爻\t⽙爿\t⽚片\t⽛牙\t",
  "⽜牛\t⽝犬\t⽞玄\t⽟玉\t⽠瓜\t⽡瓦\t⽢甘\t⽣生\t⽤用\t⽥田\t⽦疋\t⽧疒\t",
  "⽨癶\t⽩白\t⽪皮\t⽫皿\t⽬目\t⽭矛\t⽮矢\t⽯石\t⽰示\t⽱禸\t⽲禾\t⽳穴\t",
  "⽴立\t⽵竹\t⽶米\t⽷糸\t⽸缶\t⽹网\t⽺羊\t⽻羽\t⽼老\t⽽而\t⽾耒\t⽿耳\t",
  "⾀聿\t⾁肉\t⾂臣\t⾃自\t⾄至\t⾅臼\t⾆舌\t⾇舛\t⾈舟\t⾉艮\t⾊色\t⾋艸\t",
  "⾌虍\t⾍虫\t⾎血\t⾏行\t⾐衣\t⾑襾\t⾒見\t⾓角\t⾔言\t⾕谷\t⾖豆\t⾗豕\t",
  "⾘豸\t⾙貝\t⾚赤\t⾛走\t⾜足\t⾝身\t⾞車\t⾟辛\t⾠辰\t⾡辵\t⾢邑\t⾣酉\t",
  "⾤釆\t⾥里\t⾦金\t⾧長\t⾨門\t⾩阜\t⾪隶\t⾫隹\t⾬雨\t⾭靑\t⾮非\t⾯面\t",
  "⾰革\t⾱韋\t⾲韭\t⾳音\t⾴頁\t⾵風\t⾶飛\t⾷食\t⾸首\t⾹香\t⾺馬\t⾻骨\t",
  "⾼高\t⾽髟\t⾾鬥\t⾿鬯\t⿀鬲\t⿁鬼\t⿂魚\t⿃鳥\t⿄鹵\t⿅鹿\t⿆麥\t⿇麻\t",
  "⿈黃\t⿉黍\t⿊黑\t⿋黹\t⿌黽\t⿍鼎\t⿎鼓\t⿏鼠\t⿐鼻\t⿑齊\t⿒齒\t⿓龍\t",
  "⿔龜\t⿕龠\t\u3000\u0020\t〶〒\t〸十\t〹卄\t〺卅\tがか\u3099\tぎき\u3099\tぐく\u3099\tげけ\u3099\tごこ\u3099\t",
  "ざさ\u3099\tじし\u3099\tずす\u3099\tぜせ\u3099\tぞそ\u3099\tだた\u3099\tぢち\u3099\tづつ\u3099\tでて\u3099\tどと\u3099\tばは\u3099\tぱは\u309A\t",
  "びひ\u3099\tぴひ\u309A\tぶふ\u3099\tぷふ\u309A\tべへ\u3099\tぺへ\u309A\tぼほ\u3099\tぽほ\u309A\tゔう\u3099\t゛\u0020\u3099\t゜\u0020\u309A\tゞゝ\u3099\t",
  "ゟより\tガカ\u3099\tギキ\u3099\tグク\u3099\tゲケ\u3099\tゴコ\u3099\tザサ\u3099\tジシ\u3099\tズス\u3099\tゼセ\u3099\tゾソ\u3099\tダタ\u3099\t",
  "ヂチ\u3099\tヅツ\u3099\tデテ\u3099\tドト\u3099\tバハ\u3099\tパハ\u309A\tビヒ\u3099\tピヒ\u309A\tブフ\u3099\tプフ\u309A\tベヘ\u3099\tペヘ\u309A\t",
  "ボホ\u3099\tポホ\u309A\tヴウ\u3099\tヷワ\u3099\tヸヰ\u3099\tヹヱ\u3099\tヺヲ\u3099\tヾヽ\u3099\tヿコト\tㄱᄀ\tㄲᄁ\tㄳᆪ\t",
  "ㄴᄂ\tㄵᆬ\tㄶᆭ\tㄷᄃ\tㄸᄄ\tㄹᄅ\tㄺᆰ\tㄻᆱ\tㄼᆲ\tㄽᆳ\tㄾᆴ\tㄿᆵ\t",
  "ㅀᄚ\tㅁᄆ\tㅂᄇ\tㅃᄈ\tㅄᄡ\tㅅᄉ\tㅆᄊ\tㅇᄋ\tㅈᄌ\tㅉᄍ\tㅊᄎ\tㅋᄏ\t",
  "ㅌᄐ\tㅍᄑ\tㅎᄒ\tㅏᅡ\tㅐᅢ\tㅑᅣ\tㅒᅤ\tㅓᅥ\tㅔᅦ\tㅕᅧ\tㅖᅨ\tㅗᅩ\t",
  "ㅘᅪ\tㅙᅫ\tㅚᅬ\tㅛᅭ\tㅜᅮ\tㅝᅯ\tㅞᅰ\tㅟᅱ\tㅠᅲ\tㅡᅳ\tㅢᅴ\tㅣᅵ\t",
  "ㅤᅠ\tㅥᄔ\tㅦᄕ\tㅧᇇ\tㅨᇈ\tㅩᇌ\tㅪᇎ\tㅫᇓ\tㅬᇗ\tㅭᇙ\tㅮᄜ\tㅯᇝ\t",
  "ㅰᇟ\tㅱᄝ\tㅲᄞ\tㅳᄠ\tㅴᄢ\tㅵᄣ\tㅶᄧ\tㅷᄩ\tㅸᄫ\tㅹᄬ\tㅺᄭ\tㅻᄮ\t",
  "ㅼᄯ\tㅽᄲ\tㅾᄶ\tㅿᅀ\tㆀᅇ\tㆁᅌ\tㆂᇱ\tㆃᇲ\tㆄᅗ\tㆅᅘ\tㆆᅙ\tㆇᆄ\t",
  "ㆈᆅ\tㆉᆈ\tㆊᆑ\tㆋᆒ\tㆌᆔ\tㆍᆞ\tㆎᆡ\t㆒一\t㆓二\t㆔三\t㆕四\t㆖上\t",
  "㆗中\t㆘下\t㆙甲\t㆚乙\t㆛丙\t㆜丁\t㆝天\t㆞地\t㆟人\t㈀(ᄀ)\t㈁(ᄂ)\t㈂(ᄃ)\t",
  "㈃(ᄅ)\t㈄(ᄆ)\t㈅(ᄇ)\t㈆(ᄉ)\t㈇(ᄋ)\t㈈(ᄌ)\t㈉(ᄎ)\t㈊(ᄏ)\t㈋(ᄐ)\t㈌(ᄑ)\t㈍(ᄒ)\t㈎(가)\t",
  "㈏(나)\t㈐(다)\t㈑(라)\t㈒(마)\t㈓(바)\t㈔(사)\t㈕(아)\t㈖(자)\t㈗(차)\t㈘(카)\t㈙(타)\t㈚(파)\t",
  "㈛(하)\t㈜(주)\t㈠(一)\t㈡(二)\t㈢(三)\t㈣(四)\t㈤(五)\t㈥(六)\t㈦(七)\t㈧(八)\t㈨(九)\t㈩(十)\t",
  "㈪(月)\t㈫(火)\t㈬(水)\t㈭(木)\t㈮(金)\t㈯(土)\t㈰(日)\t㈱(株)\t㈲(有)\t㈳(社)\t㈴(名)\t㈵(特)\t",
  "㈶(財)\t㈷(祝)\t㈸(労)\t㈹(代)\t㈺(呼)\t㈻(学)\t㈼(監)\t㈽(企)\t㈾(資)\t㈿(協)\t㉀(祭)\t㉁(休)\t",
  "㉂(自)\t㉃(至)\t㉑21\t㉒22\t㉓23\t㉔24\t㉕25\t㉖26\t㉗27\t㉘28\t㉙29\t㉚30\t",
  "㉛31\t㉜32\t㉝33\t㉞34\t㉟35\t㉠ᄀ\t㉡ᄂ\t㉢ᄃ\t㉣ᄅ\t㉤ᄆ\t㉥ᄇ\t㉦ᄉ\t",
  "㉧ᄋ\t㉨ᄌ\t㉩ᄎ\t㉪ᄏ\t㉫ᄐ\t㉬ᄑ\t㉭ᄒ\t㉮가\t㉯나\t㉰다\t㉱라\t㉲마\t",
  "㉳바\t㉴사\t㉵아\t㉶자\t㉷차\t㉸카\t㉹타\t㉺파\t㉻하\t㊀一\t㊁二\t㊂三\t",
  "㊃四\t㊄五\t㊅六\t㊆七\t㊇八\t㊈九\t㊉十\t㊊月\t㊋火\t㊌水\t㊍木\t㊎金\t",
  "㊏土\t㊐日\t㊑株\t㊒有\t㊓社\t㊔名\t㊕特\t㊖財\t㊗祝\t㊘労\t㊙秘\t㊚男\t",
  "㊛女\t㊜適\t㊝優\t㊞印\t㊟注\t㊠項\t㊡休\t㊢写\t㊣正\t㊤上\t㊥中\t㊦下\t",
  "㊧左\t㊨右\t㊩医\t㊪宗\t㊫学\t㊬監\t㊭企\t㊮資\t㊯協\t㊰夜\t㊱36\t㊲37\t",
  "㊳38\t㊴39\t㊵40\t㊶41\t㊷42\t㊸43\t㊹44\t㊺45\t㊻46\t㊼47\t㊽48\t㊾49\t",
  "㊿50\t㋀1月\t㋁2月\t㋂3月\t㋃4月\t㋄5月\t㋅6月\t㋆7月\t㋇8月\t㋈9月\t㋉10月\t㋊11月\t",
  "㋋12月\t㋐ア\t㋑イ\t㋒ウ\t㋓エ\t㋔オ\t㋕カ\t㋖キ\t㋗ク\t㋘ケ\t㋙コ\t㋚サ\t",
  "㋛シ\t㋜ス\t㋝セ\t㋞ソ\t㋟タ\t㋠チ\t㋡ツ\t㋢テ\t㋣ト\t㋤ナ\t㋥ニ\t㋦ヌ\t",
  "㋧ネ\t㋨ノ\t㋩ハ\t㋪ヒ\t㋫フ\t㋬ヘ\t㋭ホ\t㋮マ\t㋯ミ\t㋰ム\t㋱メ\t㋲モ\t",
  "㋳ヤ\t㋴ユ\t㋵ヨ\t㋶ラ\t㋷リ\t㋸ル\t㋹レ\t㋺ロ\t㋻ワ\t㋼ヰ\t㋽ヱ\t㋾ヲ\t",
  "㌀アハ\u309Aート\t㌁アルファ\t㌂アンヘ\u309Aア\t㌃アール\t㌄イニンク\u3099\t㌅インチ\t㌆ウォン\t㌇エスクート\u3099\t㌈エーカー\t㌉オンス\t㌊オーム\t㌋カイリ\t",
  "㌌カラット\t㌍カロリー\t㌎カ\u3099ロン\t㌏カ\u3099ンマ\t㌐キ\u3099カ\u3099\t㌑キ\u3099ニー\t㌒キュリー\t㌓キ\u3099ルタ\u3099ー\t㌔キロ\t㌕キロク\u3099ラム\t㌖キロメートル\t㌗キロワット\t",
  "㌘ク\u3099ラム\t㌙ク\u3099ラムトン\t㌚クルセ\u3099イロ\t㌛クローネ\t㌜ケース\t㌝コルナ\t㌞コーホ\u309A\t㌟サイクル\t㌠サンチーム\t㌡シリンク\u3099\t㌢センチ\t㌣セント\t",
  "㌤タ\u3099ース\t㌥テ\u3099シ\t㌦ト\u3099ル\t㌧トン\t㌨ナノ\t㌩ノット\t㌪ハイツ\t㌫ハ\u309Aーセント\t㌬ハ\u309Aーツ\t㌭ハ\u3099ーレル\t㌮ヒ\u309Aアストル\t㌯ヒ\u309Aクル\t",
  "㌰ヒ\u309Aコ\t㌱ヒ\u3099ル\t㌲ファラット\u3099\t㌳フィート\t㌴フ\u3099ッシェル\t㌵フラン\t㌶ヘクタール\t㌷ヘ\u309Aソ\t㌸ヘ\u309Aニヒ\t㌹ヘルツ\t㌺ヘ\u309Aンス\t㌻ヘ\u309Aーシ\u3099\t",
  "㌼ヘ\u3099ータ\t㌽ホ\u309Aイント\t㌾ホ\u3099ルト\t㌿ホン\t㍀ホ\u309Aント\u3099\t㍁ホール\t㍂ホーン\t㍃マイクロ\t㍄マイル\t㍅マッハ\t㍆マルク\t㍇マンション\t",
  "㍈ミクロン\t㍉ミリ\t㍊ミリハ\u3099ール\t㍋メカ\u3099\t㍌メカ\u3099トン\t㍍メートル\t㍎ヤート\u3099\t㍏ヤール\t㍐ユアン\t㍑リットル\t㍒リラ\t㍓ルヒ\u309Aー\t",
  "㍔ルーフ\u3099ル\t㍕レム\t㍖レントケ\u3099ン\t㍗ワット\t㍘0点\t㍙1点\t㍚2点\t㍛3点\t㍜4点\t㍝5点\t㍞6点\t㍟7点\t",
  "㍠8点\t㍡9点\t㍢10点\t㍣11点\t㍤12点\t㍥13点\t㍦14点\t㍧15点\t㍨16点\t㍩17点\t㍪18点\t㍫19点\t",
  "㍬20点\t㍭21点\t㍮22点\t㍯23点\t㍰24点\t㍱hPa\t㍲da\t㍳AU\t㍴bar\t㍵oV\t㍶pc\t㍻平成\t",
  "㍼昭和\t㍽大正\t㍾明治\t㍿株式会社\t㎀pA\t㎁nA\t㎂μA\t㎃mA\t㎄kA\t㎅KB\t㎆MB\t㎇GB\t",
  "㎈cal\t㎉kcal\t㎊pF\t㎋nF\t㎌μF\t㎍μg\t㎎mg\t㎏kg\t㎐Hz\t㎑kHz\t㎒MHz\t㎓GHz\t",
  "㎔THz\t㎕μl\t㎖ml\t㎗dl\t㎘kl\t㎙fm\t㎚nm\t㎛μm\t㎜mm\t㎝cm\t㎞km\t㎟mm2\t",
  "㎠cm2\t㎡m2\t㎢km2\t㎣mm3\t㎤cm3\t㎥m3\t㎦km3\t㎧m∕s\t㎨m∕s2\t㎩Pa\t㎪kPa\t㎫MPa\t",
  "㎬GPa\t㎭rad\t㎮rad∕s\t㎯rad∕s2\t㎰ps\t㎱ns\t㎲μs\t㎳ms\t㎴pV\t㎵nV\t㎶μV\t㎷mV\t",
  "㎸kV\t㎹MV\t㎺pW\t㎻nW\t㎼μW\t㎽mW\t㎾kW\t㎿MW\t㏀kΩ\t㏁MΩ\t㏂a.m.\t㏃Bq\t",
  "㏄cc\t㏅cd\t㏆C∕kg\t㏇Co.\t㏈dB\t㏉Gy\t㏊ha\t㏋HP\t㏌in\t㏍KK\t㏎KM\t㏏kt\t",
  "㏐lm\t㏑ln\t㏒log\t㏓lx\t㏔mb\t㏕mil\t㏖mol\t㏗PH\t㏘p.m.\t㏙PPM\t㏚PR\t㏛sr\t",
  "㏜Sv\t㏝Wb\t㏠1日\t㏡2日\t㏢3日\t㏣4日\t㏤5日\t㏥6日\t㏦7日\t㏧8日\t㏨9日\t㏩10日\t",
  "㏪11日\t㏫12日\t㏬13日\t㏭14日\t㏮15日\t㏯16日\t㏰17日\t㏱18日\t㏲19日\t㏳20日\t㏴21日\t㏵22日\t",
  "㏶23日\t㏷24日\t㏸25日\t㏹26日\t㏺27日\t㏻28日\t㏼29日\t㏽30日\t㏾31日\t豈豈\t更更\t車車\t",
  "賈賈\t滑滑\t串串\t句句\t龜龜\t龜龜\t契契\t金金\t喇喇\t奈奈\t懶懶\t癩癩\t",
  "羅羅\t蘿蘿\t螺螺\t裸裸\t邏邏\t樂樂\t洛洛\t烙烙\t珞珞\t落落\t酪酪\t駱駱\t",
  "亂亂\t卵卵\t欄欄\t爛爛\t蘭蘭\t鸞鸞\t嵐嵐\t濫濫\t藍藍\t襤襤\t拉拉\t臘臘\t",
  "蠟蠟\t廊廊\t朗朗\t浪浪\t狼狼\t郎郎\t來來\t冷冷\t勞勞\t擄擄\t櫓櫓\t爐爐\t",
  "盧盧\t老老\t蘆蘆\t虜虜\t路路\t露露\t魯魯\t鷺鷺\t碌碌\t祿祿\t綠綠\t菉菉\t",
  "錄錄\t鹿鹿\t論論\t壟壟\t弄弄\t籠籠\t聾聾\t牢牢\t磊磊\t賂賂\t雷雷\t壘壘\t",
  "屢屢\t樓樓\t淚淚\t漏漏\t累累\t縷縷\t陋陋\t勒勒\t肋肋\t凜凜\t凌凌\t稜稜\t",
  "綾綾\t菱菱\t陵陵\t讀讀\t拏拏\t樂樂\t諾諾\t丹丹\t寧寧\t怒怒\t率率\t異異\t",
  "北北\t磻磻\t便便\t復復\t不不\t泌泌\t數數\t索索\t參參\t塞塞\t省省\t葉葉\t",
  "說說\t殺殺\t辰辰\t沈沈\t拾拾\t若若\t掠掠\t略略\t亮亮\t兩兩\t凉凉\t梁梁\t",
  "糧糧\t良良\t諒諒\t量量\t勵勵\t呂呂\t女女\t廬廬\t旅旅\t濾濾\t礪礪\t閭閭\t",
  "驪驪\t麗麗\t黎黎\t力力\t曆曆\t歷歷\t轢轢\t年年\t憐憐\t戀戀\t撚撚\t漣漣\t",
  "煉煉\t璉璉\t秊秊\t練練\t聯聯\t輦輦\t蓮蓮\t連連\t鍊鍊\t列列\t劣劣\t咽咽\t",
  "烈烈\t裂裂\t說說\t廉廉\t念念\t捻捻\t殮殮\t簾簾\t獵獵\t令令\t囹囹\t寧寧\t",
  "嶺嶺\t怜怜\t玲玲\t瑩瑩\t羚羚\t聆聆\t鈴鈴\t零零\t靈靈\t領領\t例例\t禮禮\t",
  "醴醴\t隸隸\t惡惡\t了了\t僚僚\t寮寮\t尿尿\t料料\t樂樂\t燎燎\t療療\t蓼蓼\t",
  "遼遼\t龍龍\t暈暈\t阮阮\t劉劉\t杻杻\t柳柳\t流流\t溜溜\t琉琉\t留留\t硫硫\t",
  "紐紐\t類類\t六六\t戮戮\t陸陸\t倫倫\t崙崙\t淪淪\t輪輪\t律律\t慄慄\t栗栗\t",
  "率率\t隆隆\t利利\t吏吏\t履履\t易易\t李李\t梨梨\t泥泥\t理理\t痢痢\t罹罹\t",
  "裏裏\t裡裡\t里里\t離離\t匿匿\t溺溺\t吝吝\t燐燐\t璘璘\t藺藺\t隣隣\t鱗鱗\t",
  "麟麟\t林林\t淋淋\t臨臨\t立立\t笠笠\t粒粒\t狀狀\t炙炙\t識識\t什什\t茶茶\t",
  "刺刺\t切切\t度度\t拓拓\t糖糖\t宅宅\t洞洞\t暴暴\t輻輻\t行行\t降降\t見見\t",
  "廓廓\t兀兀\t嗀嗀\t塚塚\t晴晴\t凞凞\t猪猪\t益益\t礼礼\t神神\t祥祥\t福福\t",
  "靖靖\t精精\t羽羽\t蘒蘒\t諸諸\t逸逸\t都都\t飯飯\t飼飼\t館館\t鶴鶴\t侮侮\t",
  "僧僧\t免免\t勉勉\t勤勤\t卑卑\t喝喝\t嘆嘆\t器器\t塀塀\t墨墨\t層層\t屮屮\t",
  "悔悔\t慨慨\t憎憎\t懲懲\t敏敏\t既既\t暑暑\t梅梅\t海海\t渚渚\t漢漢\t煮煮\t",
  "爫爫\t琢琢\t碑碑\t社社\t祉祉\t祈祈\t祐祐\t祖祖\t祝祝\t禍禍\t禎禎\t穀穀\t",
  "突突\t節節\t練練\t縉縉\t繁繁\t署署\t者者\t臭臭\t艹艹\t艹艹\t著著\t褐褐\t",
  "視視\t謁謁\t謹謹\t賓賓\t贈贈\t辶辶\t逸逸\t難難\t響響\t頻頻\tﬀff\tﬁfi\t",
  "ﬂfl\tﬃffi\tﬄffl\tﬅst\tﬆst\tﬓմն\tﬔմե\tﬕմի\tﬖվն\tﬗմխ\tיִי\u05B4\tײַײ\u05B7\t",
  "ﬠע\tﬡא\tﬢד\tﬣה\tﬤכ\tﬥל\tﬦם\tﬧר\tﬨת\t﬩+\tשׁש\u05C1\tשׂש\u05C2\t",
  "שּׁש\u05BC\u05C1\tשּׂש\u05BC\u05C2\tאַא\u05B7\tאָא\u05B8\tאּא\u05BC\tבּב\u05BC\tגּג\u05BC\tדּד\u05BC\tהּה\u05BC\tוּו\u05BC\tזּז\u05BC\tטּט\u05BC\t",
  "יּי\u05BC\tךּך\u05BC\tכּכ\u05BC\tלּל\u05BC\tמּמ\u05BC\tנּנ\u05BC\tסּס\u05BC\tףּף\u05BC\tפּפ\u05BC\tצּצ\u05BC\tקּק\u05BC\tרּר\u05BC\t",
  "שּש\u05BC\tתּת\u05BC\tוֹו\u05B9\tבֿב\u05BF\tכֿכ\u05BF\tפֿפ\u05BF\tﭏאל\tﭐٱ\tﭑٱ\tﭒٻ\tﭓٻ\tﭔٻ\t",
  "ﭕٻ\tﭖپ\tﭗپ\tﭘپ\tﭙپ\tﭚڀ\tﭛڀ\tﭜڀ\tﭝڀ\tﭞٺ\tﭟٺ\tﭠٺ\t",
  "ﭡٺ\tﭢٿ\tﭣٿ\tﭤٿ\tﭥٿ\tﭦٹ\tﭧٹ\tﭨٹ\tﭩٹ\tﭪڤ\tﭫڤ\tﭬڤ\t",
  "ﭭڤ\tﭮڦ\tﭯڦ\tﭰڦ\tﭱڦ\tﭲڄ\tﭳڄ\tﭴڄ\tﭵڄ\tﭶڃ\tﭷڃ\tﭸڃ\t",
  "ﭹڃ\tﭺچ\tﭻچ\tﭼچ\tﭽچ\tﭾڇ\tﭿڇ\tﮀڇ\tﮁڇ\tﮂڍ\tﮃڍ\tﮄڌ\t",
  "ﮅڌ\tﮆڎ\tﮇڎ\tﮈڈ\tﮉڈ\tﮊژ\tﮋژ\tﮌڑ\tﮍڑ\tﮎک\tﮏک\tﮐک\t",
  "ﮑک\tﮒگ\tﮓگ\tﮔگ\tﮕگ\tﮖڳ\tﮗڳ\tﮘڳ\tﮙڳ\tﮚڱ\tﮛڱ\tﮜڱ\t",
  "ﮝڱ\tﮞں\tﮟں\tﮠڻ\tﮡڻ\tﮢڻ\tﮣڻ\tﮤە\u0654\tﮥە\u0654\tﮦہ\tﮧہ\tﮨہ\t",
  "ﮩہ\tﮪھ\tﮫھ\tﮬھ\tﮭھ\tﮮے\tﮯے\tﮰے\u0654\tﮱے\u0654\tﯓڭ\tﯔڭ\tﯕڭ\t",
  "ﯖڭ\tﯗۇ\tﯘۇ\tﯙۆ\tﯚۆ\tﯛۈ\tﯜۈ\tﯝۇٴ\tﯞۋ\tﯟۋ\tﯠۅ\tﯡۅ\t",
  "ﯢۉ\tﯣۉ\tﯤې\tﯥې\tﯦې\tﯧې\tﯨى\tﯩى\tﯪي\u0654ا\tﯫي\u0654ا\tﯬي\u0654ە\tﯭي\u0654ە\t",
  "ﯮي\u0654و\tﯯي\u0654و\tﯰي\u0654ۇ\tﯱي\u0654ۇ\tﯲي\u0654ۆ\tﯳي\u0654ۆ\tﯴي\u0654ۈ\tﯵي\u0654ۈ\tﯶي\u0654ې\tﯷي\u0654ې\tﯸي\u0654ې\tﯹي\u0654ى\t",
  "ﯺي\u0654ى\tﯻي\u0654ى\tﯼی\tﯽی\tﯾی\tﯿی\tﰀي\u0654ج\tﰁي\u0654ح\tﰂي\u0654م\tﰃي\u0654ى\tﰄي\u0654ي\tﰅبج\t",
  "ﰆبح\tﰇبخ\tﰈبم\tﰉبى\tﰊبي\tﰋتج\tﰌتح\tﰍتخ\tﰎتم\tﰏتى\tﰐتي\tﰑثج\t",
  "ﰒثم\tﰓثى\tﰔثي\tﰕجح\tﰖجم\tﰗحج\tﰘحم\tﰙخج\tﰚخح\tﰛخم\tﰜسج\tﰝسح\t",
  "ﰞسخ\tﰟسم\tﰠصح\tﰡصم\tﰢضج\tﰣضح\tﰤضخ\tﰥضم\tﰦطح\tﰧطم\tﰨظم\tﰩعج\t",
  "ﰪعم\tﰫغج\tﰬغم\tﰭفج\tﰮفح\tﰯفخ\tﰰفم\tﰱفى\tﰲفي\tﰳقح\tﰴقم\tﰵقى\t",
  "ﰶقي\tﰷكا\tﰸكج\tﰹكح\tﰺكخ\tﰻكل\tﰼكم\tﰽكى\tﰾكي\tﰿلج\tﱀلح\tﱁلخ\t",
  "ﱂلم\tﱃلى\tﱄلي\tﱅمج\tﱆمح\tﱇمخ\tﱈمم\tﱉمى\tﱊمي\tﱋنج\tﱌنح\tﱍنخ\t",
  "ﱎنم\tﱏنى\tﱐني\tﱑهج\tﱒهم\tﱓهى\tﱔهي\tﱕيج\tﱖيح\tﱗيخ\tﱘيم\tﱙيى\t",
  "ﱚيي\tﱛذ\u0670\tﱜر\u0670\tﱝى\u0670\tﱞ\u0020\u064C\u0651\tﱟ\u0020\u064D\u0651\tﱠ\u0020\u064E\u0651\tﱡ\u0020\u064F\u0651\tﱢ\u0020\u0650\u0651\tﱣ\u0020\u0651\u0670\tﱤي\u0654ر\tﱥي\u0654ز\t",
  "ﱦي\u0654م\tﱧي\u0654ن\tﱨي\u0654ى\tﱩي\u0654ي\tﱪبر\tﱫبز\tﱬبم\tﱭبن\tﱮبى\tﱯبي\tﱰتر\tﱱتز\t",
  "ﱲتم\tﱳتن\tﱴتى\tﱵتي\tﱶثر\tﱷثز\tﱸثم\tﱹثن\tﱺثى\tﱻثي\tﱼفى\tﱽفي\t",
  "ﱾقى\tﱿقي\tﲀكا\tﲁكل\tﲂكم\tﲃكى\tﲄكي\tﲅلم\tﲆلى\tﲇلي\tﲈما\tﲉمم\t",
  "ﲊنر\tﲋنز\tﲌنم\tﲍنن\tﲎنى\tﲏني\tﲐى\u0670\tﲑير\tﲒيز\tﲓيم\tﲔين\tﲕيى\t",
  "ﲖيي\tﲗي\u0654ج\tﲘي\u0654ح\tﲙي\u0654خ\tﲚي\u0654م\tﲛي\u0654ه\tﲜبج\tﲝبح\tﲞبخ\tﲟبم\tﲠبه\tﲡتج\t",
  "ﲢتح\tﲣتخ\tﲤتم\tﲥته\tﲦثم\tﲧجح\tﲨجم\tﲩحج\tﲪحم\tﲫخج\tﲬخم\tﲭسج\t",
  "ﲮسح\tﲯسخ\tﲰسم\tﲱصح\tﲲصخ\tﲳصم\tﲴضج\tﲵضح\tﲶضخ\tﲷضم\tﲸطح\tﲹظم\t",
  "ﲺعج\tﲻعم\tﲼغج\tﲽغم\tﲾفج\tﲿفح\tﳀفخ\tﳁفم\tﳂقح\tﳃقم\tﳄكج\tﳅكح\t",
  "ﳆكخ\tﳇكل\tﳈكم\tﳉلج\tﳊلح\tﳋلخ\tﳌلم\tﳍله\tﳎمج\tﳏمح\tﳐمخ\tﳑمم\t",
  "ﳒنج\tﳓنح\tﳔنخ\tﳕنم\tﳖنه\tﳗهج\tﳘهم\tﳙه\u0670\tﳚيج\tﳛيح\tﳜيخ\tﳝيم\t",
  "ﳞيه\tﳟي\u0654م\tﳠي\u0654ه\tﳡبم\tﳢبه\tﳣتم\tﳤته\tﳥثم\tﳦثه\tﳧسم\tﳨسه\tﳩشم\t",
  "ﳪشه\tﳫكل\tﳬكم\tﳭلم\tﳮنم\tﳯنه\tﳰيم\tﳱيه\tﳲـ\u064E\u0651\tﳳـ\u064F\u0651\tﳴـ\u0650\u0651\tﳵطى\t",
  "ﳶطي\tﳷعى\tﳸعي\tﳹغى\tﳺغي\tﳻسى\tﳼسي\tﳽشى\tﳾشي\tﳿحى\tﴀحي\tﴁجى\t",
  "ﴂجي\tﴃخى\tﴄخي\tﴅصى\tﴆصي\tﴇضى\tﴈضي\tﴉشج\tﴊشح\tﴋشخ\tﴌشم\tﴍشر\t",
  "ﴎسر\tﴏصر\tﴐضر\tﴑطى\tﴒطي\tﴓعى\tﴔعي\tﴕغى\tﴖغي\tﴗسى\tﴘسي\tﴙشى\t",
  "ﴚشي\tﴛحى\tﴜحي\tﴝجى\tﴞجي\tﴟخى\tﴠخي\tﴡصى\tﴢصي\tﴣضى\tﴤضي\tﴥشج\t",
  "ﴦشح\tﴧشخ\tﴨشم\tﴩشر\tﴪسر\tﴫصر\tﴬضر\tﴭشج\tﴮشح\tﴯشخ\tﴰشم\tﴱسه\t",
  "ﴲشه\tﴳطم\tﴴسج\tﴵسح\tﴶسخ\tﴷشج\tﴸشح\tﴹشخ\tﴺطم\tﴻظم\tﴼا\u064B\tﴽا\u064B\t",
  "ﵐتجم\tﵑتحج\tﵒتحج\tﵓتحم\tﵔتخم\tﵕتمج\tﵖتمح\tﵗتمخ\tﵘجمح\tﵙجمح\tﵚحمي\tﵛحمى\t",
  "ﵜسحج\tﵝسجح\tﵞسجى\tﵟسمح\tﵠسمح\tﵡسمج\tﵢسمم\tﵣسمم\tﵤصحح\tﵥصحح\tﵦصمم\tﵧشحم\t",
  "ﵨشحم\tﵩشجي\tﵪشمخ\tﵫشمخ\tﵬشمم\tﵭشمم\tﵮضحى\tﵯضخم\tﵰضخم\tﵱطمح\tﵲطمح\tﵳطمم\t",
  "ﵴطمي\tﵵعجم\tﵶعمم\tﵷعمم\tﵸعمى\tﵹغمم\tﵺغمي\tﵻغمى\tﵼفخم\tﵽفخم\tﵾقمح\tﵿقمم\t",
  "ﶀلحم\tﶁلحي\tﶂلحى\tﶃلجج\tﶄلجج\tﶅلخم\tﶆلخم\tﶇلمح\tﶈلمح\tﶉمحج\tﶊمحم\tﶋمحي\t",
  "ﶌمجح\tﶍمجم\tﶎمخج\tﶏمخم\tﶒمجخ\tﶓهمج\tﶔهمم\tﶕنحم\tﶖنحى\tﶗنجم\tﶘنجم\tﶙنجى\t",
  "ﶚنمي\tﶛنمى\tﶜيمم\tﶝيمم\tﶞبخي\tﶟتجي\tﶠتجى\tﶡتخي\tﶢتخى\tﶣتمي\tﶤتمى\tﶥجمي\t",
  "ﶦجحى\tﶧجمى\tﶨسخى\tﶩصحي\tﶪشحي\tﶫضحي\tﶬلجي\tﶭلمي\tﶮيحي\tﶯيجي\tﶰيمي\tﶱممي\t",
  "ﶲقمي\tﶳنحي\tﶴقمح\tﶵلحم\tﶶعمي\tﶷكمي\tﶸنجح\tﶹمخي\tﶺلجم\tﶻكمم\tﶼلجم\tﶽنجح\t",
  "ﶾجحي\tﶿحجي\tﷀمجي\tﷁفمي\tﷂبحي\tﷃكمم\tﷄعجم\tﷅصمم\tﷆسخي\tﷇنجي\tﷰصلے\tﷱقلے\t",
  "ﷲالله\tﷳاكبر\tﷴمحمد\tﷵصلعم\tﷶرسول\tﷷعليه\tﷸوسلم\tﷹصلى\tﷺصلى\u0020الله\u0020عليه\u0020وسلم\tﷻجل\u0020جلاله\t﷼ریال\t︰..\t",
  "︱—\t︲–\t︳_\t︴_\t︵(\t︶)\t︷\x7b\t︸\x7d\t︹〔\t︺〕\t︻【\t︼】\t",
  "︽《\t︾》\t︿〈\t﹀〉\t﹁「\t﹂」\t﹃『\t﹄』\t﹉\u0020\u0305\t﹊\u0020\u0305\t﹋\u0020\u0305\t﹌\u0020\u0305\t",
  "﹍_\t﹎_\t﹏_\t﹐,\t﹑、\t﹒.\t﹔;\t﹕:\t﹖?\t﹗!\t﹘—\t﹙(\t",
  "﹚)\t﹛\x7b\t﹜\x7d\t﹝〔\t﹞〕\t﹟#\t﹠&\t﹡*\t﹢+\t﹣-\t﹤<\t﹥>\t",
  "﹦=\t﹨\\\t﹩$\t﹪%\t﹫@\tﹰ\u0020\u064B\tﹱـ\u064B\tﹲ\u0020\u064C\tﹴ\u0020\u064D\tﹶ\u0020\u064E\tﹷـ\u064E\tﹸ\u0020\u064F\t",
  "ﹹـ\u064F\tﹺ\u0020\u0650\tﹻـ\u0650\tﹼ\u0020\u0651\tﹽـ\u0651\tﹾ\u0020\u0652\tﹿـ\u0652\tﺀء\tﺁا\u0653\tﺂا\u0653\tﺃا\u0654\tﺄا\u0654\t",
  "ﺅو\u0654\tﺆو\u0654\tﺇا\u0655\tﺈا\u0655\tﺉي\u0654\tﺊي\u0654\tﺋي\u0654\tﺌي\u0654\tﺍا\tﺎا\tﺏب\tﺐب\t",
  "ﺑب\tﺒب\tﺓة\tﺔة\tﺕت\tﺖت\tﺗت\tﺘت\tﺙث\tﺚث\tﺛث\tﺜث\t",
  "ﺝج\tﺞج\tﺟج\tﺠج\tﺡح\tﺢح\tﺣح\tﺤح\tﺥخ\tﺦخ\tﺧخ\tﺨخ\t",
  "ﺩد\tﺪد\tﺫذ\tﺬذ\tﺭر\tﺮر\tﺯز\tﺰز\tﺱس\tﺲس\tﺳس\tﺴس\t",
  "ﺵش\tﺶش\tﺷش\tﺸش\tﺹص\tﺺص\tﺻص\tﺼص\tﺽض\tﺾض\tﺿض\tﻀض\t",
  "ﻁط\tﻂط\tﻃط\tﻄط\tﻅظ\tﻆظ\tﻇظ\tﻈظ\tﻉع\tﻊع\tﻋع\tﻌع\t",
  "ﻍغ\tﻎغ\tﻏغ\tﻐغ\tﻑف\tﻒف\tﻓف\tﻔف\tﻕق\tﻖق\tﻗق\tﻘق\t",
  "ﻙك\tﻚك\tﻛك\tﻜك\tﻝل\tﻞل\tﻟل\tﻠل\tﻡم\tﻢم\tﻣم\tﻤم\t",
  "ﻥن\tﻦن\tﻧن\tﻨن\tﻩه\tﻪه\tﻫه\tﻬه\tﻭو\tﻮو\tﻯى\tﻰى\t",
  "ﻱي\tﻲي\tﻳي\tﻴي\tﻵلا\u0653\tﻶلا\u0653\tﻷلا\u0654\tﻸلا\u0654\tﻹلا\u0655\tﻺلا\u0655\tﻻلا\tﻼلا\t",
  "！!\t＂\"\t＃#\t＄$\t％%\t＆&\t＇'\t（(\t）)\t＊*\t＋+\t，,\t",
  "－-\t．.\t／/\t０0\t１1\t２2\t３3\t４4\t５5\t６6\t７7\t８8\t",
  "９9\t：:\t；;\t＜<\t＝=\t＞>\t？?\t＠@\tＡA\tＢB\tＣC\tＤD\t",
  "ＥE\tＦF\tＧG\tＨH\tＩI\tＪJ\tＫK\tＬL\tＭM\tＮN\tＯO\tＰP\t",
  "ＱQ\tＲR\tＳS\tＴT\tＵU\tＶV\tＷW\tＸX\tＹY\tＺZ\t［[\t＼\\\t",
  "］]\t＾^\t＿_\t｀`\tａa\tｂb\tｃc\tｄd\tｅe\tｆf\tｇg\tｈh\t",
  "ｉi\tｊj\tｋk\tｌl\tｍm\tｎn\tｏo\tｐp\tｑq\tｒr\tｓs\tｔt\t",
  "ｕu\tｖv\tｗw\tｘx\tｙy\tｚz\t｛\x7b\t｜|\t｝\x7d\t～~\t｟⦅\t｠⦆\t",
  "｡。\t｢「\t｣」\t､、\t･・\tｦヲ\tｧァ\tｨィ\tｩゥ\tｪェ\tｫォ\tｬャ\t",
  "ｭュ\tｮョ\tｯッ\tｰー\tｱア\tｲイ\tｳウ\tｴエ\tｵオ\tｶカ\tｷキ\tｸク\t",
  "ｹケ\tｺコ\tｻサ\tｼシ\tｽス\tｾセ\tｿソ\tﾀタ\tﾁチ\tﾂツ\tﾃテ\tﾄト\t",
  "ﾅナ\tﾆニ\tﾇヌ\tﾈネ\tﾉノ\tﾊハ\tﾋヒ\tﾌフ\tﾍヘ\tﾎホ\tﾏマ\tﾐミ\t",
  "ﾑム\tﾒメ\tﾓモ\tﾔヤ\tﾕユ\tﾖヨ\tﾗラ\tﾘリ\tﾙル\tﾚレ\tﾛロ\tﾜワ\t",
  "ﾝン\tﾞ\u3099\tﾟ\u309A\tﾠᅠ\tﾡᄀ\tﾢᄁ\tﾣᆪ\tﾤᄂ\tﾥᆬ\tﾦᆭ\tﾧᄃ\tﾨᄄ\t",
  "ﾩᄅ\tﾪᆰ\tﾫᆱ\tﾬᆲ\tﾭᆳ\tﾮᆴ\tﾯᆵ\tﾰᄚ\tﾱᄆ\tﾲᄇ\tﾳᄈ\tﾴᄡ\t",
  "ﾵᄉ\tﾶᄊ\tﾷᄋ\tﾸᄌ\tﾹᄍ\tﾺᄎ\tﾻᄏ\tﾼᄐ\tﾽᄑ\tﾾᄒ\tￂᅡ\tￃᅢ\t",
  "ￄᅣ\tￅᅤ\tￆᅥ\tￇᅦ\tￊᅧ\tￋᅨ\tￌᅩ\tￍᅪ\tￎᅫ\tￏᅬ\tￒᅭ\tￓᅮ\t",
  "ￔᅯ\tￕᅰ\tￖᅱ\tￗᅲ\tￚᅳ\tￛᅴ\tￜᅵ\t￠¢\t￡£\t￢¬\t￣\u0020\u0304\t￤¦\t",
  "￥¥\t￦₩\t￨│\t￩←\t￪↑\t￫→\t￬↓\t￭■\t￮○\t𝅗𝅥𝅗𝅥\t𝅘𝅥𝅘𝅥\t𝅘𝅥𝅮𝅘𝅥𝅮\t",
  "𝅘𝅥𝅯𝅘𝅥𝅯\t𝅘𝅥𝅰𝅘𝅥𝅰\t𝅘𝅥𝅱𝅘𝅥𝅱\t𝅘𝅥𝅲𝅘𝅥𝅲\t𝆹𝅥𝆹𝅥\t𝆺𝅥𝆺𝅥\t𝆹𝅥𝅮𝆹𝅥𝅮\t𝆺𝅥𝅮𝆺𝅥𝅮\t𝆹𝅥𝅯𝆹𝅥𝅯\t𝆺𝅥𝅯𝆺𝅥𝅯\t𝐀A\t𝐁B\t",
  "𝐂C\t𝐃D\t𝐄E\t𝐅F\t𝐆G\t𝐇H\t𝐈I\t𝐉J\t𝐊K\t𝐋L\t𝐌M\t𝐍N\t",
  "𝐎O\t𝐏P\t𝐐Q\t𝐑R\t𝐒S\t𝐓T\t𝐔U\t𝐕V\t𝐖W\t𝐗X\t𝐘Y\t𝐙Z\t",
  "𝐚a\t𝐛b\t𝐜c\t𝐝d\t𝐞e\t𝐟f\t𝐠g\t𝐡h\t𝐢i\t𝐣j\t𝐤k\t𝐥l\t",
  "𝐦m\t𝐧n\t𝐨o\t𝐩p\t𝐪q\t𝐫r\t𝐬s\t𝐭t\t𝐮u\t𝐯v\t𝐰w\t𝐱x\t",
  "𝐲y\t𝐳z\t𝐴A\t𝐵B\t𝐶C\t𝐷D\t𝐸E\t𝐹F\t𝐺G\t𝐻H\t𝐼I\t𝐽J\t",
  "𝐾K\t𝐿L\t𝑀M\t𝑁N\t𝑂O\t𝑃P\t𝑄Q\t𝑅R\t𝑆S\t𝑇T\t𝑈U\t𝑉V\t",
  "𝑊W\t𝑋X\t𝑌Y\t𝑍Z\t𝑎a\t𝑏b\t𝑐c\t𝑑d\t𝑒e\t𝑓f\t𝑔g\t𝑖i\t",
  "𝑗j\t𝑘k\t𝑙l\t𝑚m\t𝑛n\t𝑜o\t𝑝p\t𝑞q\t𝑟r\t𝑠s\t𝑡t\t𝑢u\t",
  "𝑣v\t𝑤w\t𝑥x\t𝑦y\t𝑧z\t𝑨A\t𝑩B\t𝑪C\t𝑫D\t𝑬E\t𝑭F\t𝑮G\t",
  "𝑯H\t𝑰I\t𝑱J\t𝑲K\t𝑳L\t𝑴M\t𝑵N\t𝑶O\t𝑷P\t𝑸Q\t𝑹R\t𝑺S\t",
  "𝑻T\t𝑼U\t𝑽V\t𝑾W\t𝑿X\t𝒀Y\t𝒁Z\t𝒂a\t𝒃b\t𝒄c\t𝒅d\t𝒆e\t",
  "𝒇f\t𝒈g\t𝒉h\t𝒊i\t𝒋j\t𝒌k\t𝒍l\t𝒎m\t𝒏n\t𝒐o\t𝒑p\t𝒒q\t",
  "𝒓r\t𝒔s\t𝒕t\t𝒖u\t𝒗v\t𝒘w\t𝒙x\t𝒚y\t𝒛z\t𝒜A\t𝒞C\t𝒟D\t",
  "𝒢G\t𝒥J\t𝒦K\t𝒩N\t𝒪O\t𝒫P\t𝒬Q\t𝒮S\t𝒯T\t𝒰U\t𝒱V\t𝒲W\t",
  "𝒳X\t𝒴Y\t𝒵Z\t𝒶a\t𝒷b\t𝒸c\t𝒹d\t𝒻f\t𝒽h\t𝒾i\t𝒿j\t𝓀k\t",
  "𝓂m\t𝓃n\t𝓅p\t𝓆q\t𝓇r\t𝓈s\t𝓉t\t𝓊u\t𝓋v\t𝓌w\t𝓍x\t𝓎y\t",
  "𝓏z\t𝓐A\t𝓑B\t𝓒C\t𝓓D\t𝓔E\t𝓕F\t𝓖G\t𝓗H\t𝓘I\t𝓙J\t𝓚K\t",
  "𝓛L\t𝓜M\t𝓝N\t𝓞O\t𝓟P\t𝓠Q\t𝓡R\t𝓢S\t𝓣T\t𝓤U\t𝓥V\t𝓦W\t",
  "𝓧X\t𝓨Y\t𝓩Z\t𝓪a\t𝓫b\t𝓬c\t𝓭d\t𝓮e\t𝓯f\t𝓰g\t𝓱h\t𝓲i\t",
  "𝓳j\t𝓴k\t𝓵l\t𝓶m\t𝓷n\t𝓸o\t𝓹p\t𝓺q\t𝓻r\t𝓼s\t𝓽t\t𝓾u\t",
  "𝓿v\t𝔀w\t𝔁x\t𝔂y\t𝔃z\t𝔄A\t𝔅B\t𝔇D\t𝔈E\t𝔉F\t𝔊G\t𝔍J\t",
  "𝔎K\t𝔏L\t𝔐M\t𝔑N\t𝔒O\t𝔓P\t𝔔Q\t𝔖S\t𝔗T\t𝔘U\t𝔙V\t𝔚W\t",
  "𝔛X\t𝔜Y\t𝔞a\t𝔟b\t𝔠c\t𝔡d\t𝔢e\t𝔣f\t𝔤g\t𝔥h\t𝔦i\t𝔧j\t",
  "𝔨k\t𝔩l\t𝔪m\t𝔫n\t𝔬o\t𝔭p\t𝔮q\t𝔯r\t𝔰s\t𝔱t\t𝔲u\t𝔳v\t",
  "𝔴w\t𝔵x\t𝔶y\t𝔷z\t𝔸A\t𝔹B\t𝔻D\t𝔼E\t𝔽F\t𝔾G\t𝕀I\t𝕁J\t",
  "𝕂K\t𝕃L\t𝕄M\t𝕆O\t𝕊S\t𝕋T\t𝕌U\t𝕍V\t𝕎W\t𝕏X\t𝕐Y\t𝕒a\t",
  "𝕓b\t𝕔c\t𝕕d\t𝕖e\t𝕗f\t𝕘g\t𝕙h\t𝕚i\t𝕛j\t𝕜k\t𝕝l\t𝕞m\t",
  "𝕟n\t𝕠o\t𝕡p\t𝕢q\t𝕣r\t𝕤s\t𝕥t\t𝕦u\t𝕧v\t𝕨w\t𝕩x\t𝕪y\t",
  "𝕫z\t𝕬A\t𝕭B\t𝕮C\t𝕯D\t𝕰E\t𝕱F\t𝕲G\t𝕳H\t𝕴I\t𝕵J\t𝕶K\t",
  "𝕷L\t𝕸M\t𝕹N\t𝕺O\t𝕻P\t𝕼Q\t𝕽R\t𝕾S\t𝕿T\t𝖀U\t𝖁V\t𝖂W\t",
  "𝖃X\t𝖄Y\t𝖅Z\t𝖆a\t𝖇b\t𝖈c\t𝖉d\t𝖊e\t𝖋f\t𝖌g\t𝖍h\t𝖎i\t",
  "𝖏j\t𝖐k\t𝖑l\t𝖒m\t𝖓n\t𝖔o\t𝖕p\t𝖖q\t𝖗r\t𝖘s\t𝖙t\t𝖚u\t",
  "𝖛v\t𝖜w\t𝖝x\t𝖞y\t𝖟z\t𝖠A\t𝖡B\t𝖢C\t𝖣D\t𝖤E\t𝖥F\t𝖦G\t",
  "𝖧H\t𝖨I\t𝖩J\t𝖪K\t𝖫L\t𝖬M\t𝖭N\t𝖮O\t𝖯P\t𝖰Q\t𝖱R\t𝖲S\t",
  "𝖳T\t𝖴U\t𝖵V\t𝖶W\t𝖷X\t𝖸Y\t𝖹Z\t𝖺a\t𝖻b\t𝖼c\t𝖽d\t𝖾e\t",
  "𝖿f\t𝗀g\t𝗁h\t𝗂i\t𝗃j\t𝗄k\t𝗅l\t𝗆m\t𝗇n\t𝗈o\t𝗉p\t𝗊q\t",
  "𝗋r\t𝗌s\t𝗍t\t𝗎u\t𝗏v\t𝗐w\t𝗑x\t𝗒y\t𝗓z\t𝗔A\t𝗕B\t𝗖C\t",
  "𝗗D\t𝗘E\t𝗙F\t𝗚G\t𝗛H\t𝗜I\t𝗝J\t𝗞K\t𝗟L\t𝗠M\t𝗡N\t𝗢O\t",
  "𝗣P\t𝗤Q\t𝗥R\t𝗦S\t𝗧T\t𝗨U\t𝗩V\t𝗪W\t𝗫X\t𝗬Y\t𝗭Z\t𝗮a\t",
  "𝗯b\t𝗰c\t𝗱d\t𝗲e\t𝗳f\t𝗴g\t𝗵h\t𝗶i\t𝗷j\t𝗸k\t𝗹l\t𝗺m\t",
  "𝗻n\t𝗼o\t𝗽p\t𝗾q\t𝗿r\t𝘀s\t𝘁t\t𝘂u\t𝘃v\t𝘄w\t𝘅x\t𝘆y\t",
  "𝘇z\t𝘈A\t𝘉B\t𝘊C\t𝘋D\t𝘌E\t𝘍F\t𝘎G\t𝘏H\t𝘐I\t𝘑J\t𝘒K\t",
  "𝘓L\t𝘔M\t𝘕N\t𝘖O\t𝘗P\t𝘘Q\t𝘙R\t𝘚S\t𝘛T\t𝘜U\t𝘝V\t𝘞W\t",
  "𝘟X\t𝘠Y\t𝘡Z\t𝘢a\t𝘣b\t𝘤c\t𝘥d\t𝘦e\t𝘧f\t𝘨g\t𝘩h\t𝘪i\t",
  "𝘫j\t𝘬k\t𝘭l\t𝘮m\t𝘯n\t𝘰o\t𝘱p\t𝘲q\t𝘳r\t𝘴s\t𝘵t\t𝘶u\t",
  "𝘷v\t𝘸w\t𝘹x\t𝘺y\t𝘻z\t𝘼A\t𝘽B\t𝘾C\t𝘿D\t𝙀E\t𝙁F\t𝙂G\t",
  "𝙃H\t𝙄I\t𝙅J\t𝙆K\t𝙇L\t𝙈M\t𝙉N\t𝙊O\t𝙋P\t𝙌Q\t𝙍R\t𝙎S\t",
  "𝙏T\t𝙐U\t𝙑V\t𝙒W\t𝙓X\t𝙔Y\t𝙕Z\t𝙖a\t𝙗b\t𝙘c\t𝙙d\t𝙚e\t",
  "𝙛f\t𝙜g\t𝙝h\t𝙞i\t𝙟j\t𝙠k\t𝙡l\t𝙢m\t𝙣n\t𝙤o\t𝙥p\t𝙦q\t",
  "𝙧r\t𝙨s\t𝙩t\t𝙪u\t𝙫v\t𝙬w\t𝙭x\t𝙮y\t𝙯z\t𝙰A\t𝙱B\t𝙲C\t",
  "𝙳D\t𝙴E\t𝙵F\t𝙶G\t𝙷H\t𝙸I\t𝙹J\t𝙺K\t𝙻L\t𝙼M\t𝙽N\t𝙾O\t",
  "𝙿P\t𝚀Q\t𝚁R\t𝚂S\t𝚃T\t𝚄U\t𝚅V\t𝚆W\t𝚇X\t𝚈Y\t𝚉Z\t𝚊a\t",
  "𝚋b\t𝚌c\t𝚍d\t𝚎e\t𝚏f\t𝚐g\t𝚑h\t𝚒i\t𝚓j\t𝚔k\t𝚕l\t𝚖m\t",
  "𝚗n\t𝚘o\t𝚙p\t𝚚q\t𝚛r\t𝚜s\t𝚝t\t𝚞u\t𝚟v\t𝚠w\t𝚡x\t𝚢y\t",
  "𝚣z\t𝚨Α\t𝚩Β\t𝚪Γ\t𝚫Δ\t𝚬Ε\t𝚭Ζ\t𝚮Η\t𝚯Θ\t𝚰Ι\t𝚱Κ\t𝚲Λ\t",
  "𝚳Μ\t𝚴Ν\t𝚵Ξ\t𝚶Ο\t𝚷Π\t𝚸Ρ\t𝚹Θ\t𝚺Σ\t𝚻Τ\t𝚼Υ\t𝚽Φ\t𝚾Χ\t",
  "𝚿Ψ\t𝛀Ω\t𝛁∇\t𝛂α\t𝛃β\t𝛄γ\t𝛅δ\t𝛆ε\t𝛇ζ\t𝛈η\t𝛉θ\t𝛊ι\t",
  "𝛋κ\t𝛌λ\t𝛍μ\t𝛎ν\t𝛏ξ\t𝛐ο\t𝛑π\t𝛒ρ\t𝛓ς\t𝛔σ\t𝛕τ\t𝛖υ\t",
  "𝛗φ\t𝛘χ\t𝛙ψ\t𝛚ω\t𝛛∂\t𝛜ε\t𝛝θ\t𝛞κ\t𝛟φ\t𝛠ρ\t𝛡π\t𝛢Α\t",
  "𝛣Β\t𝛤Γ\t𝛥Δ\t𝛦Ε\t𝛧Ζ\t𝛨Η\t𝛩Θ\t𝛪Ι\t𝛫Κ\t𝛬Λ\t𝛭Μ\t𝛮Ν\t",
  "𝛯Ξ\t𝛰Ο\t𝛱Π\t𝛲Ρ\t𝛳Θ\t𝛴Σ\t𝛵Τ\t𝛶Υ\t𝛷Φ\t𝛸Χ\t𝛹Ψ\t𝛺Ω\t",
  "𝛻∇\t𝛼α\t𝛽β\t𝛾γ\t𝛿δ\t𝜀ε\t𝜁ζ\t𝜂η\t𝜃θ\t𝜄ι\t𝜅κ\t𝜆λ\t",
  "𝜇μ\t𝜈ν\t𝜉ξ\t𝜊ο\t𝜋π\t𝜌ρ\t𝜍ς\t𝜎σ\t𝜏τ\t𝜐υ\t𝜑φ\t𝜒χ\t",
  "𝜓ψ\t𝜔ω\t𝜕∂\t𝜖ε\t𝜗θ\t𝜘κ\t𝜙φ\t𝜚ρ\t𝜛π\t𝜜Α\t𝜝Β\t𝜞Γ\t",
  "𝜟Δ\t𝜠Ε\t𝜡Ζ\t𝜢Η\t𝜣Θ\t𝜤Ι\t𝜥Κ\t𝜦Λ\t𝜧Μ\t𝜨Ν\t𝜩Ξ\t𝜪Ο\t",
  "𝜫Π\t𝜬Ρ\t𝜭Θ\t𝜮Σ\t𝜯Τ\t𝜰Υ\t𝜱Φ\t𝜲Χ\t𝜳Ψ\t𝜴Ω\t𝜵∇\t𝜶α\t",
  "𝜷β\t𝜸γ\t𝜹δ\t𝜺ε\t𝜻ζ\t𝜼η\t𝜽θ\t𝜾ι\t𝜿κ\t𝝀λ\t𝝁μ\t𝝂ν\t",
  "𝝃ξ\t𝝄ο\t𝝅π\t𝝆ρ\t𝝇ς\t𝝈σ\t𝝉τ\t𝝊υ\t𝝋φ\t𝝌χ\t𝝍ψ\t𝝎ω\t",
  "𝝏∂\t𝝐ε\t𝝑θ\t𝝒κ\t𝝓φ\t𝝔ρ\t𝝕π\t𝝖Α\t𝝗Β\t𝝘Γ\t𝝙Δ\t𝝚Ε\t",
  "𝝛Ζ\t𝝜Η\t𝝝Θ\t𝝞Ι\t𝝟Κ\t𝝠Λ\t𝝡Μ\t𝝢Ν\t𝝣Ξ\t𝝤Ο\t𝝥Π\t𝝦Ρ\t",
  "𝝧Θ\t𝝨Σ\t𝝩Τ\t𝝪Υ\t𝝫Φ\t𝝬Χ\t𝝭Ψ\t𝝮Ω\t𝝯∇\t𝝰α\t𝝱β\t𝝲γ\t",
  "𝝳δ\t𝝴ε\t𝝵ζ\t𝝶η\t𝝷θ\t𝝸ι\t𝝹κ\t𝝺λ\t𝝻μ\t𝝼ν\t𝝽ξ\t𝝾ο\t",
  "𝝿π\t𝞀ρ\t𝞁ς\t𝞂σ\t𝞃τ\t𝞄υ\t𝞅φ\t𝞆χ\t𝞇ψ\t𝞈ω\t𝞉∂\t𝞊ε\t",
  "𝞋θ\t𝞌κ\t𝞍φ\t𝞎ρ\t𝞏π\t𝞐Α\t𝞑Β\t𝞒Γ\t𝞓Δ\t𝞔Ε\t𝞕Ζ\t𝞖Η\t",
  "𝞗Θ\t𝞘Ι\t𝞙Κ\t𝞚Λ\t𝞛Μ\t𝞜Ν\t𝞝Ξ\t𝞞Ο\t𝞟Π\t𝞠Ρ\t𝞡Θ\t𝞢Σ\t",
  "𝞣Τ\t𝞤Υ\t𝞥Φ\t𝞦Χ\t𝞧Ψ\t𝞨Ω\t𝞩∇\t𝞪α\t𝞫β\t𝞬γ\t𝞭δ\t𝞮ε\t",
  "𝞯ζ\t𝞰η\t𝞱θ\t𝞲ι\t𝞳κ\t𝞴λ\t𝞵μ\t𝞶ν\t𝞷ξ\t𝞸ο\t𝞹π\t𝞺ρ\t",
  "𝞻ς\t𝞼σ\t𝞽τ\t𝞾υ\t𝞿φ\t𝟀χ\t𝟁ψ\t𝟂ω\t𝟃∂\t𝟄ε\t𝟅θ\t𝟆κ\t",
  "𝟇φ\t𝟈ρ\t𝟉π\t𝟎0\t𝟏1\t𝟐2\t𝟑3\t𝟒4\t𝟓5\t𝟔6\t𝟕7\t𝟖8\t",
  "𝟗9\t𝟘0\t𝟙1\t𝟚2\t𝟛3\t𝟜4\t𝟝5\t𝟞6\t𝟟7\t𝟠8\t𝟡9\t𝟢0\t",
  "𝟣1\t𝟤2\t𝟥3\t𝟦4\t𝟧5\t𝟨6\t𝟩7\t𝟪8\t𝟫9\t𝟬0\t𝟭1\t𝟮2\t",
  "𝟯3\t𝟰4\t𝟱5\t𝟲6\t𝟳7\t𝟴8\t𝟵9\t𝟶0\t𝟷1\t𝟸2\t𝟹3\t𝟺4\t",
  "𝟻5\t𝟼6\t𝟽7\t𝟾8\t𝟿9\t丽丽\t丸丸\t乁乁\t𠄢𠄢\t你你\t侮侮\t侻侻\t",
  "倂倂\t偺偺\t備備\t僧僧\t像像\t㒞㒞\t𠘺𠘺\t免免\t兔兔\t兤兤\t具具\t𠔜𠔜\t",
  "㒹㒹\t內內\t再再\t𠕋𠕋\t冗冗\t冤冤\t仌仌\t冬冬\t况况\t𩇟𩇟\t凵凵\t刃刃\t",
  "㓟㓟\t刻刻\t剆剆\t割割\t剷剷\t㔕㔕\t勇勇\t勉勉\t勤勤\t勺勺\t包包\t匆匆\t",
  "北北\t卉卉\t卑卑\t博博\t即即\t卽卽\t卿卿\t卿卿\t卿卿\t𠨬𠨬\t灰灰\t及及\t",
  "叟叟\t𠭣𠭣\t叫叫\t叱叱\t吆吆\t咞咞\t吸吸\t呈呈\t周周\t咢咢\t哶哶\t唐唐\t",
  "啓啓\t啣啣\t善善\t善善\t喙喙\t喫喫\t喳喳\t嗂嗂\t圖圖\t嘆嘆\t圗圗\t噑噑\t",
  "噴噴\t切切\t壮壮\t城城\t埴埴\t堍堍\t型型\t堲堲\t報報\t墬墬\t𡓤𡓤\t売売\t",
  "壷壷\t夆夆\t多多\t夢夢\t奢奢\t𡚨𡚨\t𡛪𡛪\t姬姬\t娛娛\t娧娧\t姘姘\t婦婦\t",
  "㛮㛮\t㛼𡍪\t嬈嬈\t嬾嬾\t嬾嬾\t𡧈𡧈\t寃寃\t寘寘\t寧寧\t寳寳\t𡬘𡬘\t寿寿\t",
  "将将\t当弳\t尢尢\t㞁㞁\t屠屠\t屮屮\t峀峀\t岍岍\t𡷤𡷤\t嵃嵃\t𡷦𡷦\t嵮嵮\t",
  "嵫嵫\t嵼嵼\t巡巡\t巢巢\t㠯㠯\t巽巽\t帨帨\t帽帽\t幩幩\t㡢㡢\t𢆃𢆃\t㡼㡼\t",
  "庰庰\t庳庳\t庶庶\t廊廊\t𪎒𪎒\t廾廾\t𢌱𢌱\t𢌱𢌱\t舁舁\t弢弢\t弢弢\t㣇㣇\t",
  "𣊸𣊸\t𦇚𦇚\t形形\t彫彫\t㣣㣣\t徚徚\t忍忍\t志志\t忹忹\t悁悁\t㤺㤺\t㤜㤜\t",
  "悔悔\t𢛔𢛔\t惇惇\t慈慈\t慌慌\t慎慎\t慌慌\t慺慺\t憎憎\t憲憲\t憤憤\t憯憯\t",
  "懞懞\t懲懲\t懶懶\t成成\t戛戛\t扝扝\t抱抱\t拔拔\t捐捐\t𢬌𢬌\t挽挽\t拼拼\t",
  "捨捨\t掃掃\t揤揤\t𢯱𢯱\t搢搢\t揅揅\t掩掩\t㨮㨮\t摩摩\t摾摾\t撝撝\t摷摷\t",
  "㩬㩬\t敏敏\t敬敬\t𣀊𣀊\t旣旣\t書書\t晉晉\t㬙㬙\t暑暑\t㬈㬈\t㫤㫤\t冒冒\t",
  "冕冕\t最最\t暜暜\t肭肭\t䏙䏙\t朗朗\t望望\t朡朡\t杞杞\t杓杓\t𣏃𣏃\t㭉㭉\t",
  "柺柺\t枅枅\t桒桒\t梅梅\t𣑭𣑭\t梎梎\t栟栟\t椔椔\t㮝㮝\t楂楂\t榣榣\t槪槪\t",
  "檨檨\t𣚣𣚣\t櫛櫛\t㰘㰘\t次次\t𣢧𣢧\t歔歔\t㱎㱎\t歲歲\t殟殟\t殺殺\t殻殻\t",
  "𣪍𣪍\t𡴋𡴋\t𣫺𣫺\t汎汎\t𣲼𣲼\t沿沿\t泍泍\t汧汧\t洖洖\t派派\t海海\t流流\t",
  "浩浩\t浸浸\t涅涅\t𣴞𣴞\t洴洴\t港港\t湮湮\t㴳㴳\t滋滋\t滇滇\t𣻑𣻑\t淹淹\t",
  "潮潮\t𣽞𣽞\t𣾎𣾎\t濆濆\t瀹瀹\t瀞瀞\t瀛瀛\t㶖㶖\t灊灊\t災災\t灷灷\t炭炭\t",
  "𠔥𠔥\t煅煅\t𤉣𤉣\t熜熜\t𤎫䎫\t爨爨\t爵爵\t牐牐\t𤘈𤘈\t犀犀\t犕犕\t𤜵𤜵\t",
  "𤠔𤠔\t獺獺\t王王\t㺬㺬\t玥玥\t㺸㺸\t㺸㺸\t瑇瑇\t瑜瑜\t瑱瑱\t璅璅\t瓊瓊\t",
  "㼛㼛\t甤甤\t𤰶𤰶\t甾甾\t𤲒𤲒\t異異\t𢆟𢆟\t瘐瘐\t𤾡𤾡\t𤾸𤾸\t𥁄𥁄\t㿼㿼\t",
  "䀈䀈\t直直\t𥃳𥃳\t𥃲𥃲\t𥄙𥄙\t𥄳𥄳\t眞眞\t真真\t真真\t睊睊\t䀹䀹\t瞋瞋\t",
  "䁆䁆\t䂖䂖\t𥐝𥐝\t硎硎\t碌碌\t磌磌\t䃣䃣\t𥘦𥘦\t祖祖\t𥚚𥚚\t𥛅𥛅\t福福\t",
  "秫秫\t䄯䄯\t穀穀\t穊穊\t穏穏\t𥥼𥥼\t𥪧𥪧\t𥪧𥪧\t竮窮\t䈂䈂\t𥮫𥮫\t篆篆\t",
  "築築\t䈧䈧\t𥲀𥲀\t糒糒\t䊠䊠\t糨糨\t糣糣\t紀紀\t𥾆𥾆\t絣絣\t䌁䌁\t緇緇\t",
  "縂縂\t繅繅\t䌴䌴\t𦈨𦈨\t𦉇𦉇\t䍙䍙\t𦋙𦋙\t罺罺\t𦌾𦌾\t羕羕\t翺翺\t者者\t",
  "𦓚𦓚\t𦔣𦔣\t聠聠\t𦖨𦖨\t聰聰\t𣍟𣍟\t䏕䏕\t育育\t脃脃\t䐋䐋\t脾脾\t媵媵\t",
  "𦞧𦞧\t𦞵𦞵\t𣎓𣎓\t𣎜𣎜\t舁舁\t舄舄\t辞辞\t䑫䑫\t芑芑\t芋芋\t芝芝\t劳劳\t",
  "花花\t芳芳\t芽芽\t苦苦\t𦬼𦬼\t若若\t茝茝\t荣荣\t莭莭\t茣茣\t莽莽\t菧菧\t",
  "著著\t荓荓\t菊菊\t菌菌\t菜菜\t𦰶𦰶\t𦵫𦵫\t𦳕𦳕\t䔫䔫\t蓱蓱\t蓳蓳\t蔖蔖\t",
  "𧏊𧏊\t蕤蕤\t𦼬𦼬\t䕝䕝\t䕡䕡\t𦾱𦾱\t𧃒𧃒\t䕫䕫\t虐虐\t虜虜\t虧虧\t虩虩\t",
  "蚩蚩\t蚈蚈\t蜎蜎\t蛢蛢\t蝹蝹\t蜨蜨\t蝫蝫\t螆螆\t䗗䵗\t蟡蟡\t蠁蠁\t䗹䗹\t",
  "衠衠\t衣衣\t𧙧𧙧\t裗裗\t裞裞\t䘵䘵\t裺裺\t㒻㒻\t𧢮𧢮\t𧥦𧥦\t䚾䚾\t䛇䛇\t",
  "誠誠\t諭諭\t變變\t豕豕\t𧲨𧲨\t貫貫\t賁賁\t贛贛\t起起\t𧼯𧼯\t𠠄𠠄\t跋跋\t",
  "趼趼\t跰跰\t𠣞𠣞\t軔軔\t輸輸\t𨗒𨗒\t𨗭𨗭\t邔邔\t郱郱\t鄑鄑\t𨜮𨜮\t鄛鄛\t",
  "鈸鈸\t鋗鋗\t鋘鋘\t鉼鉼\t鏹鏹\t鐕鐕\t𨯺𨯺\t開開\t䦕䦕\t閷閷\t𨵷𨵷\t䧦䧦\t",
  "雃雃\t嶲嶲\t霣霣\t𩅅𩅅\t𩈚𩈚\t䩮䩮\t䩶䩶\t韠韠\t𩐊𩐊\t䪲䪲\t𩒖𩒖\t頋頋\t",
  "頋頋\t頩頩\t𩖶𩖶\t飢飢\t䬳䬳\t餩餩\t馧馧\t駂駂\t駾駾\t䯎䯎\t𩬰𩬰\t鬒鬒\t",
  "鱀鱀\t鳽鳽\t䳎䳎\t䳭䳭\t鵧鵧\t𪃎𪃎\t䳸䳸\t𪄅𪄅\t𪈎𪈎\t𪊑𪊑\t麻麻\t䵖䵖\t",
  "黹黹\t黾黾\t鼅鼅\t鼏鼏\t鼖鼖\t鼻鼻\t𪘀𪘀\t"]

def decompositions : CharTable := .ofEntries decompositionText

end Weave.Text.Stringprep
