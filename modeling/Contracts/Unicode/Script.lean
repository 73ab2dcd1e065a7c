import Contracts.Unicode.Property
import Contracts.Unicode.ScriptExtensions
import Contracts.Unicode.ScriptsAtoL
import Contracts.Unicode.ScriptsMtoZ

/-!
# Scripts

Every script of Unicode 16 under its long and its short name. A character has one script; the
extensions of a script are the characters that are written in it, whatever their own script is.
-/

namespace Contracts.Unicode

open Script in
/-- The scripts. -/
def scripts : List Property := [
  .ofRuns ["adlam", "adlm"] adlamRuns,
  .ofRuns ["ahom"] ahomRuns,
  .ofRuns ["anatolianhieroglyphs", "hluw"] anatolianHieroglyphsRuns,
  .ofRuns ["arab", "arabic"] arabicRuns,
  .ofRuns ["armenian", "armn"] armenianRuns,
  .ofRuns ["avestan", "avst"] avestanRuns,
  .ofRuns ["bali", "balinese"] balineseRuns,
  .ofRuns ["bamu", "bamum"] bamumRuns,
  .ofRuns ["bass", "bassavah"] bassaVahRuns,
  .ofRuns ["batak", "batk"] batakRuns,
  .ofRuns ["beng", "bengali"] bengaliRuns,
  .ofRuns ["bhaiksuki", "bhks"] bhaiksukiRuns,
  .ofRuns ["bopo", "bopomofo"] bopomofoRuns,
  .ofRuns ["brah", "brahmi"] brahmiRuns,
  .ofRuns ["brai", "braille"] brailleRuns,
  .ofRuns ["bugi", "buginese"] bugineseRuns,
  .ofRuns ["buhd", "buhid"] buhidRuns,
  .ofRuns ["canadianaboriginal", "cans"] canadianAboriginalRuns,
  .ofRuns ["cari", "carian"] carianRuns,
  .ofRuns ["aghb", "caucasianalbanian"] caucasianAlbanianRuns,
  .ofRuns ["cakm", "chakma"] chakmaRuns,
  .ofRuns ["cham"] chamRuns,
  .ofRuns ["cher", "cherokee"] cherokeeRuns,
  .ofRuns ["chorasmian", "chrs"] chorasmianRuns,
  .ofRuns ["common", "zyyy"] commonRuns,
  .ofRuns ["copt", "coptic", "qaac"] copticRuns,
  .ofRuns ["cuneiform", "xsux"] cuneiformRuns,
  .ofRuns ["cprt", "cypriot"] cypriotRuns,
  .ofRuns ["cpmn", "cyprominoan"] cyproMinoanRuns,
  .ofRuns ["cyrillic", "cyrl"] cyrillicRuns,
  .ofRuns ["deseret", "dsrt"] deseretRuns,
  .ofRuns ["deva", "devanagari"] devanagariRuns,
  .ofRuns ["diak", "divesakuru"] divesAkuruRuns,
  .ofRuns ["dogr", "dogra"] dograRuns,
  .ofRuns ["dupl", "duployan"] duployanRuns,
  .ofRuns ["egyp", "egyptianhieroglyphs"] egyptianHieroglyphsRuns,
  .ofRuns ["elba", "elbasan"] elbasanRuns,
  .ofRuns ["elym", "elymaic"] elymaicRuns,
  .ofRuns ["ethi", "ethiopic"] ethiopicRuns,
  .ofRuns ["gara", "garay"] garayRuns,
  .ofRuns ["geor", "georgian"] georgianRuns,
  .ofRuns ["glag", "glagolitic"] glagoliticRuns,
  .ofRuns ["goth", "gothic"] gothicRuns,
  .ofRuns ["gran", "grantha"] granthaRuns,
  .ofRuns ["greek", "grek"] greekRuns,
  .ofRuns ["gujarati", "gujr"] gujaratiRuns,
  .ofRuns ["gong", "gunjalagondi"] gunjalaGondiRuns,
  .ofRuns ["gurmukhi", "guru"] gurmukhiRuns,
  .ofRuns ["gukh", "gurungkhema"] gurungKhemaRuns,
  .ofRuns ["han", "hani"] hanRuns,
  .ofRuns ["hang", "hangul"] hangulRuns,
  .ofRuns ["hanifirohingya", "rohg"] hanifiRohingyaRuns,
  .ofRuns ["hano", "hanunoo"] hanunooRuns,
  .ofRuns ["hatr", "hatran"] hatranRuns,
  .ofRuns ["hebr", "hebrew"] hebrewRuns,
  .ofRuns ["hira", "hiragana"] hiraganaRuns,
  .ofRuns ["armi", "imperialaramaic"] imperialAramaicRuns,
  .ofRuns ["inherited", "qaai", "zinh"] inheritedRuns,
  .ofRuns ["inscriptionalpahlavi", "phli"] inscriptionalPahlaviRuns,
  .ofRuns ["inscriptionalparthian", "prti"] inscriptionalParthianRuns,
  .ofRuns ["java", "javanese"] javaneseRuns,
  .ofRuns ["kaithi", "kthi"] kaithiRuns,
  .ofRuns ["kannada", "knda"] kannadaRuns,
  .ofRuns ["kana", "katakana"] katakanaRuns,
  .ofRuns ["kawi"] kawiRuns,
  .ofRuns ["kali", "kayahli"] kayahLiRuns,
  .ofRuns ["khar", "kharoshthi"] kharoshthiRuns,
  .ofRuns ["khitansmallscript", "kits"] khitanSmallScriptRuns,
  .ofRuns ["khmer", "khmr"] khmerRuns,
  .ofRuns ["khoj", "khojki"] khojkiRuns,
  .ofRuns ["khudawadi", "sind"] khudawadiRuns,
  .ofRuns ["kiratrai", "krai"] kiratRaiRuns,
  .ofRuns ["lao", "laoo"] laoRuns,
  .ofRuns ["latin", "latn"] latinRuns,
  .ofRuns ["lepc", "lepcha"] lepchaRuns,
  .ofRuns ["limb", "limbu"] limbuRuns,
  .ofRuns ["lina", "lineara"] linearARuns,
  .ofRuns ["linb", "linearb"] linearBRuns,
  .ofRuns ["lisu"] lisuRuns,
  .ofRuns ["lyci", "lycian"] lycianRuns,
  .ofRuns ["lydi", "lydian"] lydianRuns,
  .ofRuns ["mahajani", "mahj"] mahajaniRuns,
  .ofRuns ["maka", "makasar"] makasarRuns,
  .ofRuns ["malayalam", "mlym"] malayalamRuns,
  .ofRuns ["mand", "mandaic"] mandaicRuns,
  .ofRuns ["mani", "manichaean"] manichaeanRuns,
  .ofRuns ["marc", "marchen"] marchenRuns,
  .ofRuns ["gonm", "masaramgondi"] masaramGondiRuns,
  .ofRuns ["medefaidrin", "medf"] medefaidrinRuns,
  .ofRuns ["meeteimayek", "mtei"] meeteiMayekRuns,
  .ofRuns ["mend", "mendekikakui"] mendeKikakuiRuns,
  .ofRuns ["merc", "meroiticcursive"] meroiticCursiveRuns,
  .ofRuns ["mero", "meroitichieroglyphs"] meroiticHieroglyphsRuns,
  .ofRuns ["miao", "plrd"] miaoRuns,
  .ofRuns ["modi"] modiRuns,
  .ofRuns ["mong", "mongolian"] mongolianRuns,
  .ofRuns ["mro", "mroo"] mroRuns,
  .ofRuns ["mult", "multani"] multaniRuns,
  .ofRuns ["myanmar", "mymr"] myanmarRuns,
  .ofRuns ["nabataean", "nbat"] nabataeanRuns,
  .ofRuns ["nagm", "nagmundari"] nagMundariRuns,
  .ofRuns ["nand", "nandinagari"] nandinagariRuns,
  .ofRuns ["newtailue", "talu"] newTaiLueRuns,
  .ofRuns ["newa"] newaRuns,
  .ofRuns ["nko", "nkoo"] nkoRuns,
  .ofRuns ["nshu", "nushu"] nushuRuns,
  .ofRuns ["hmnp", "nyiakengpuachuehmong"] nyiakengPuachueHmongRuns,
  .ofRuns ["ogam", "ogham"] oghamRuns,
  .ofRuns ["olchiki", "olck"] olChikiRuns,
  .ofRuns ["olonal", "onao"] olOnalRuns,
  .ofRuns ["hung", "oldhungarian"] oldHungarianRuns,
  .ofRuns ["ital", "olditalic"] oldItalicRuns,
  .ofRuns ["narb", "oldnortharabian"] oldNorthArabianRuns,
  .ofRuns ["oldpermic", "perm"] oldPermicRuns,
  .ofRuns ["oldpersian", "xpeo"] oldPersianRuns,
  .ofRuns ["oldsogdian", "sogo"] oldSogdianRuns,
  .ofRuns ["oldsoutharabian", "sarb"] oldSouthArabianRuns,
  .ofRuns ["oldturkic", "orkh"] oldTurkicRuns,
  .ofRuns ["olduyghur", "ougr"] oldUyghurRuns,
  .ofRuns ["oriya", "orya"] oriyaRuns,
  .ofRuns ["osage", "osge"] osageRuns,
  .ofRuns ["osma", "osmanya"] osmanyaRuns,
  .ofRuns ["hmng", "pahawhhmong"] pahawhHmongRuns,
  .ofRuns ["palm", "palmyrene"] palmyreneRuns,
  .ofRuns ["pauc", "paucinhau"] pauCinHauRuns,
  .ofRuns ["phag", "phagspa"] phagsPaRuns,
  .ofRuns ["phnx", "phoenician"] phoenicianRuns,
  .ofRuns ["phlp", "psalterpahlavi"] psalterPahlaviRuns,
  .ofRuns ["rejang", "rjng"] rejangRuns,
  .ofRuns ["runic", "runr"] runicRuns,
  .ofRuns ["samaritan", "samr"] samaritanRuns,
  .ofRuns ["saur", "saurashtra"] saurashtraRuns,
  .ofRuns ["sharada", "shrd"] sharadaRuns,
  .ofRuns ["shavian", "shaw"] shavianRuns,
  .ofRuns ["sidd", "siddham"] siddhamRuns,
  .ofRuns ["sgnw", "signwriting"] signwritingRuns,
  .ofRuns ["sinh", "sinhala"] sinhalaRuns,
  .ofRuns ["sogd", "sogdian"] sogdianRuns,
  .ofRuns ["sora", "sorasompeng"] soraSompengRuns,
  .ofRuns ["soyo", "soyombo"] soyomboRuns,
  .ofRuns ["sund", "sundanese"] sundaneseRuns,
  .ofRuns ["sunu", "sunuwar"] sunuwarRuns,
  .ofRuns ["sylo", "sylotinagri"] sylotiNagriRuns,
  .ofRuns ["syrc", "syriac"] syriacRuns,
  .ofRuns ["tagalog", "tglg"] tagalogRuns,
  .ofRuns ["tagb", "tagbanwa"] tagbanwaRuns,
  .ofRuns ["taile", "tale"] taiLeRuns,
  .ofRuns ["lana", "taitham"] taiThamRuns,
  .ofRuns ["taiviet", "tavt"] taiVietRuns,
  .ofRuns ["takr", "takri"] takriRuns,
  .ofRuns ["tamil", "taml"] tamilRuns,
  .ofRuns ["tangsa", "tnsa"] tangsaRuns,
  .ofRuns ["tang", "tangut"] tangutRuns,
  .ofRuns ["telu", "telugu"] teluguRuns,
  .ofRuns ["thaa", "thaana"] thaanaRuns,
  .ofRuns ["thai"] thaiRuns,
  .ofRuns ["tibetan", "tibt"] tibetanRuns,
  .ofRuns ["tfng", "tifinagh"] tifinaghRuns,
  .ofRuns ["tirh", "tirhuta"] tirhutaRuns,
  .ofRuns ["todhri", "todr"] todhriRuns,
  .ofRuns ["toto"] totoRuns,
  .ofRuns ["tulutigalari", "tutg"] tuluTigalariRuns,
  .ofRuns ["ugar", "ugaritic"] ugariticRuns,
  .ofRuns ["vai", "vaii"] vaiRuns,
  .ofRuns ["vith", "vithkuqi"] vithkuqiRuns,
  .ofRuns ["wancho", "wcho"] wanchoRuns,
  .ofRuns ["wara", "warangciti"] warangCitiRuns,
  .ofRuns ["yezi", "yezidi"] yezidiRuns,
  .ofRuns ["yi", "yiii"] yiRuns,
  .ofRuns ["zanabazarsquare", "zanb"] zanabazarSquareRuns]

/-- The characters of which it is listed in which scripts they are written. -/
def sharedCharacters : CodeSet :=
  .ofRanges (scriptExtensions.map fun (first, last, _) => (first, last))

/-- The characters that are written in a script: those that list it, and of its own ones those
that list no scripts. -/
def Property.extensions (script : Property) : CodeSet :=
  let listed := scriptExtensions.filter fun (_, _, codes) => codes.any script.names.contains
  (CodeSet.ofRanges (listed.map fun (first, last, _) => (first, last))).union
    (script.set.diff sharedCharacters)

end Contracts.Unicode
