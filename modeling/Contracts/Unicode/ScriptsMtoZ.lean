import Contracts.Unicode.Runs

/-!
# Code points by script, from Manichaean to Zanabazar Square

One table for each script of Unicode 16 in alphabetical order.
-/

namespace Contracts.Unicode.Script

/-- The script Manichaean. -/
def manichaeanRuns : Runs := [
  (0x10AC0, 0x10AE6, 1), (0x10AEB, 0x10AF6, 1)]

/-- The script Marchen. -/
def marchenRuns : Runs := [
  (0x11C70, 0x11C8F, 1), (0x11C92, 0x11CA7, 1), (0x11CA9, 0x11CB6, 1)]

/-- The script Masaram Gondi. -/
def masaramGondiRuns : Runs := [
  (0x11D00, 0x11D06, 1), (0x11D08, 0x11D09, 1), (0x11D0B, 0x11D36, 1), (0x11D3A, 0x11D3A, 1),
  (0x11D3C, 0x11D3D, 1), (0x11D3F, 0x11D47, 1), (0x11D50, 0x11D59, 1)]

/-- The script Medefaidrin. -/
def medefaidrinRuns : Runs := [
  (0x16E40, 0x16E9A, 1)]

/-- The script Meetei Mayek. -/
def meeteiMayekRuns : Runs := [
  (0xAAE0, 0xAAF6, 1), (0xABC0, 0xABED, 1), (0xABF0, 0xABF9, 1)]

/-- The script Mende Kikakui. -/
def mendeKikakuiRuns : Runs := [
  (0x1E800, 0x1E8C4, 1), (0x1E8C7, 0x1E8D6, 1)]

/-- The script Meroitic Cursive. -/
def meroiticCursiveRuns : Runs := [
  (0x109A0, 0x109B7, 1), (0x109BC, 0x109CF, 1), (0x109D2, 0x109FF, 1)]

/-- The script Meroitic Hieroglyphs. -/
def meroiticHieroglyphsRuns : Runs := [
  (0x10980, 0x1099F, 1)]

/-- The script Miao. -/
def miaoRuns : Runs := [
  (0x16F00, 0x16F4A, 1), (0x16F4F, 0x16F87, 1), (0x16F8F, 0x16F9F, 1)]

/-- The script Modi. -/
def modiRuns : Runs := [
  (0x11600, 0x11644, 1), (0x11650, 0x11659, 1)]

/-- The script Mongolian. -/
def mongolianRuns : Runs := [
  (0x1800, 0x1801, 1), (0x1804, 0x1804, 1), (0x1806, 0x1819, 1), (0x1820, 0x1878, 1),
  (0x1880, 0x18AA, 1), (0x11660, 0x1166C, 1)]

/-- The script Mro. -/
def mroRuns : Runs := [
  (0x16A40, 0x16A5E, 1), (0x16A60, 0x16A69, 1), (0x16A6E, 0x16A6F, 1)]

/-- The script Multani. -/
def multaniRuns : Runs := [
  (0x11280, 0x11286, 1), (0x11288, 0x11288, 1), (0x1128A, 0x1128D, 1), (0x1128F, 0x1129D, 1),
  (0x1129F, 0x112A9, 1)]

/-- The script Myanmar. -/
def myanmarRuns : Runs := [
  (0x1000, 0x109F, 1), (0xA9E0, 0xA9FE, 1), (0xAA60, 0xAA7F, 1), (0x116D0, 0x116E3, 1)]

/-- The script Nabataean. -/
def nabataeanRuns : Runs := [
  (0x10880, 0x1089E, 1), (0x108A7, 0x108AF, 1)]

/-- The script Nag Mundari. -/
def nagMundariRuns : Runs := [
  (0x1E4D0, 0x1E4F9, 1)]

/-- The script Nandinagari. -/
def nandinagariRuns : Runs := [
  (0x119A0, 0x119A7, 1), (0x119AA, 0x119D7, 1), (0x119DA, 0x119E4, 1)]

/-- The script New Tai Lue. -/
def newTaiLueRuns : Runs := [
  (0x1980, 0x19AB, 1), (0x19B0, 0x19C9, 1), (0x19D0, 0x19DA, 1), (0x19DE, 0x19DF, 1)]

/-- The script Newa. -/
def newaRuns : Runs := [
  (0x11400, 0x1145B, 1), (0x1145D, 0x11461, 1)]

/-- The script Nko. -/
def nkoRuns : Runs := [
  (0x7C0, 0x7FA, 1), (0x7FD, 0x7FF, 1)]

/-- The script Nushu. -/
def nushuRuns : Runs := [
  (0x16FE1, 0x16FE1, 1), (0x1B170, 0x1B2FB, 1)]

/-- The script Nyiakeng Puachue Hmong. -/
def nyiakengPuachueHmongRuns : Runs := [
  (0x1E100, 0x1E12C, 1), (0x1E130, 0x1E13D, 1), (0x1E140, 0x1E149, 1), (0x1E14E, 0x1E14F, 1)]

/-- The script Ogham. -/
def oghamRuns : Runs := [
  (0x1680, 0x169C, 1)]

/-- The script Ol Chiki. -/
def olChikiRuns : Runs := [
  (0x1C50, 0x1C7F, 1)]

/-- The script Ol Onal. -/
def olOnalRuns : Runs := [
  (0x1E5D0, 0x1E5FA, 1), (0x1E5FF, 0x1E5FF, 1)]

/-- The script Old Hungarian. -/
def oldHungarianRuns : Runs := [
  (0x10C80, 0x10CB2, 1), (0x10CC0, 0x10CF2, 1), (0x10CFA, 0x10CFF, 1)]

/-- The script Old Italic. -/
def oldItalicRuns : Runs := [
  (0x10300, 0x10323, 1), (0x1032D, 0x1032F, 1)]

/-- The script Old North Arabian. -/
def oldNorthArabianRuns : Runs := [
  (0x10A80, 0x10A9F, 1)]

/-- The script Old Permic. -/
def oldPermicRuns : Runs := [
  (0x10350, 0x1037A, 1)]

/-- The script Old Persian. -/
def oldPersianRuns : Runs := [
  (0x103A0, 0x103C3, 1), (0x103C8, 0x103D5, 1)]

/-- The script Old Sogdian. -/
def oldSogdianRuns : Runs := [
  (0x10F00, 0x10F27, 1)]

/-- The script Old South Arabian. -/
def oldSouthArabianRuns : Runs := [
  (0x10A60, 0x10A7F, 1)]

/-- The script Old Turkic. -/
def oldTurkicRuns : Runs := [
  (0x10C00, 0x10C48, 1)]

/-- The script Old Uyghur. -/
def oldUyghurRuns : Runs := [
  (0x10F70, 0x10F89, 1)]

/-- The script Oriya. -/
def oriyaRuns : Runs := [
  (0xB01, 0xB03, 1), (0xB05, 0xB0C, 1), (0xB0F, 0xB10, 1), (0xB13, 0xB28, 1), (0xB2A, 0xB30, 1),
  (0xB32, 0xB33, 1), (0xB35, 0xB39, 1), (0xB3C, 0xB44, 1), (0xB47, 0xB48, 1), (0xB4B, 0xB4D, 1),
  (0xB55, 0xB57, 1), (0xB5C, 0xB5D, 1), (0xB5F, 0xB63, 1), (0xB66, 0xB77, 1)]

/-- The script Osage. -/
def osageRuns : Runs := [
  (0x104B0, 0x104D3, 1), (0x104D8, 0x104FB, 1)]

/-- The script Osmanya. -/
def osmanyaRuns : Runs := [
  (0x10480, 0x1049D, 1), (0x104A0, 0x104A9, 1)]

/-- The script Pahawh Hmong. -/
def pahawhHmongRuns : Runs := [
  (0x16B00, 0x16B45, 1), (0x16B50, 0x16B59, 1), (0x16B5B, 0x16B61, 1), (0x16B63, 0x16B77, 1),
  (0x16B7D, 0x16B8F, 1)]

/-- The script Palmyrene. -/
def palmyreneRuns : Runs := [
  (0x10860, 0x1087F, 1)]

/-- The script Pau Cin Hau. -/
def pauCinHauRuns : Runs := [
  (0x11AC0, 0x11AF8, 1)]

/-- The script Phags Pa. -/
def phagsPaRuns : Runs := [
  (0xA840, 0xA877, 1)]

/-- The script Phoenician. -/
def phoenicianRuns : Runs := [
  (0x10900, 0x1091B, 1), (0x1091F, 0x1091F, 1)]

/-- The script Psalter Pahlavi. -/
def psalterPahlaviRuns : Runs := [
  (0x10B80, 0x10B91, 1), (0x10B99, 0x10B9C, 1), (0x10BA9, 0x10BAF, 1)]

/-- The script Rejang. -/
def rejangRuns : Runs := [
  (0xA930, 0xA953, 1), (0xA95F, 0xA95F, 1)]

/-- The script Runic. -/
def runicRuns : Runs := [
  (0x16A0, 0x16EA, 1), (0x16EE, 0x16F8, 1)]

/-- The script Samaritan. -/
def samaritanRuns : Runs := [
  (0x800, 0x82D, 1), (0x830, 0x83E, 1)]

/-- The script Saurashtra. -/
def saurashtraRuns : Runs := [
  (0xA880, 0xA8C5, 1), (0xA8CE, 0xA8D9, 1)]

/-- The script Sharada. -/
def sharadaRuns : Runs := [
  (0x11180, 0x111DF, 1)]

/-- The script Shavian. -/
def shavianRuns : Runs := [
  (0x10450, 0x1047F, 1)]

/-- The script Siddham. -/
def siddhamRuns : Runs := [
  (0x11580, 0x115B5, 1), (0x115B8, 0x115DD, 1)]

/-- The script SignWriting. -/
def signwritingRuns : Runs := [
  (0x1D800, 0x1DA8B, 1), (0x1DA9B, 0x1DA9F, 1), (0x1DAA1, 0x1DAAF, 1)]

/-- The script Sinhala. -/
def sinhalaRuns : Runs := [
  (0xD81, 0xD83, 1), (0xD85, 0xD96, 1), (0xD9A, 0xDB1, 1), (0xDB3, 0xDBB, 1), (0xDBD, 0xDBD, 1),
  (0xDC0, 0xDC6, 1), (0xDCA, 0xDCA, 1), (0xDCF, 0xDD4, 1), (0xDD6, 0xDD6, 1), (0xDD8, 0xDDF, 1),
  (0xDE6, 0xDEF, 1), (0xDF2, 0xDF4, 1), (0x111E1, 0x111F4, 1)]

/-- The script Sogdian. -/
def sogdianRuns : Runs := [
  (0x10F30, 0x10F59, 1)]

/-- The script Sora Sompeng. -/
def soraSompengRuns : Runs := [
  (0x110D0, 0x110E8, 1), (0x110F0, 0x110F9, 1)]

/-- The script Soyombo. -/
def soyomboRuns : Runs := [
  (0x11A50, 0x11AA2, 1)]

/-- The script Sundanese. -/
def sundaneseRuns : Runs := [
  (0x1B80, 0x1BBF, 1), (0x1CC0, 0x1CC7, 1)]

/-- The script Sunuwar. -/
def sunuwarRuns : Runs := [
  (0x11BC0, 0x11BE1, 1), (0x11BF0, 0x11BF9, 1)]

/-- The script Syloti Nagri. -/
def sylotiNagriRuns : Runs := [
  (0xA800, 0xA82C, 1)]

/-- The script Syriac. -/
def syriacRuns : Runs := [
  (0x700, 0x70D, 1), (0x70F, 0x74A, 1), (0x74D, 0x74F, 1), (0x860, 0x86A, 1)]

/-- The script Tagalog. -/
def tagalogRuns : Runs := [
  (0x1700, 0x1715, 1), (0x171F, 0x171F, 1)]

/-- The script Tagbanwa. -/
def tagbanwaRuns : Runs := [
  (0x1760, 0x176C, 1), (0x176E, 0x1770, 1), (0x1772, 0x1773, 1)]

/-- The script Tai Le. -/
def taiLeRuns : Runs := [
  (0x1950, 0x196D, 1), (0x1970, 0x1974, 1)]

/-- The script Tai Tham. -/
def taiThamRuns : Runs := [
  (0x1A20, 0x1A5E, 1), (0x1A60, 0x1A7C, 1), (0x1A7F, 0x1A89, 1), (0x1A90, 0x1A99, 1),
  (0x1AA0, 0x1AAD, 1)]

/-- The script Tai Viet. -/
def taiVietRuns : Runs := [
  (0xAA80, 0xAAC2, 1), (0xAADB, 0xAADF, 1)]

/-- The script Takri. -/
def takriRuns : Runs := [
  (0x11680, 0x116B9, 1), (0x116C0, 0x116C9, 1)]

/-- The script Tamil. -/
def tamilRuns : Runs := [
  (0xB82, 0xB83, 1), (0xB85, 0xB8A, 1), (0xB8E, 0xB90, 1), (0xB92, 0xB95, 1), (0xB99, 0xB9A, 1),
  (0xB9C, 0xB9C, 1), (0xB9E, 0xB9F, 1), (0xBA3, 0xBA4, 1), (0xBA8, 0xBAA, 1), (0xBAE, 0xBB9, 1),
  (0xBBE, 0xBC2, 1), (0xBC6, 0xBC8, 1), (0xBCA, 0xBCD, 1), (0xBD0, 0xBD0, 1), (0xBD7, 0xBD7, 1),
  (0xBE6, 0xBFA, 1), (0x11FC0, 0x11FF1, 1), (0x11FFF, 0x11FFF, 1)]

/-- The script Tangsa. -/
def tangsaRuns : Runs := [
  (0x16A70, 0x16ABE, 1), (0x16AC0, 0x16AC9, 1)]

/-- The script Tangut. -/
def tangutRuns : Runs := [
  (0x16FE0, 0x16FE0, 1), (0x17000, 0x187F7, 1), (0x18800, 0x18AFF, 1), (0x18D00, 0x18D08, 1)]

/-- The script Telugu. -/
def teluguRuns : Runs := [
  (0xC00, 0xC0C, 1), (0xC0E, 0xC10, 1), (0xC12, 0xC28, 1), (0xC2A, 0xC39, 1), (0xC3C, 0xC44, 1),
  (0xC46, 0xC48, 1), (0xC4A, 0xC4D, 1), (0xC55, 0xC56, 1), (0xC58, 0xC5A, 1), (0xC5D, 0xC5D, 1),
  (0xC60, 0xC63, 1), (0xC66, 0xC6F, 1), (0xC77, 0xC7F, 1)]

/-- The script Thaana. -/
def thaanaRuns : Runs := [
  (0x780, 0x7B1, 1)]

/-- The script Thai. -/
def thaiRuns : Runs := [
  (0xE01, 0xE3A, 1), (0xE40, 0xE5B, 1)]

/-- The script Tibetan. -/
def tibetanRuns : Runs := [
  (0xF00, 0xF47, 1), (0xF49, 0xF6C, 1), (0xF71, 0xF97, 1), (0xF99, 0xFBC, 1), (0xFBE, 0xFCC, 1),
  (0xFCE, 0xFD4, 1), (0xFD9, 0xFDA, 1)]

/-- The script Tifinagh. -/
def tifinaghRuns : Runs := [
  (0x2D30, 0x2D67, 1), (0x2D6F, 0x2D70, 1), (0x2D7F, 0x2D7F, 1)]

/-- The script Tirhuta. -/
def tirhutaRuns : Runs := [
  (0x11480, 0x114C7, 1), (0x114D0, 0x114D9, 1)]

/-- The script Todhri. -/
def todhriRuns : Runs := [
  (0x105C0, 0x105F3, 1)]

/-- The script Toto. -/
def totoRuns : Runs := [
  (0x1E290, 0x1E2AE, 1)]

/-- The script Tulu Tigalari. -/
def tuluTigalariRuns : Runs := [
  (0x11380, 0x11389, 1), (0x1138B, 0x1138B, 1), (0x1138E, 0x1138E, 1), (0x11390, 0x113B5, 1),
  (0x113B7, 0x113C0, 1), (0x113C2, 0x113C2, 1), (0x113C5, 0x113C5, 1), (0x113C7, 0x113CA, 1),
  (0x113CC, 0x113D5, 1), (0x113D7, 0x113D8, 1), (0x113E1, 0x113E2, 1)]

/-- The script Ugaritic. -/
def ugariticRuns : Runs := [
  (0x10380, 0x1039D, 1), (0x1039F, 0x1039F, 1)]

/-- The script Vai. -/
def vaiRuns : Runs := [
  (0xA500, 0xA62B, 1)]

/-- The script Vithkuqi. -/
def vithkuqiRuns : Runs := [
  (0x10570, 0x1057A, 1), (0x1057C, 0x1058A, 1), (0x1058C, 0x10592, 1), (0x10594, 0x10595, 1),
  (0x10597, 0x105A1, 1), (0x105A3, 0x105B1, 1), (0x105B3, 0x105B9, 1), (0x105BB, 0x105BC, 1)]

/-- The script Wancho. -/
def wanchoRuns : Runs := [
  (0x1E2C0, 0x1E2F9, 1), (0x1E2FF, 0x1E2FF, 1)]

/-- The script Warang Citi. -/
def warangCitiRuns : Runs := [
  (0x118A0, 0x118F2, 1), (0x118FF, 0x118FF, 1)]

/-- The script Yezidi. -/
def yezidiRuns : Runs := [
  (0x10E80, 0x10EA9, 1), (0x10EAB, 0x10EAD, 1), (0x10EB0, 0x10EB1, 1)]

/-- The script Yi. -/
def yiRuns : Runs := [
  (0xA000, 0xA48C, 1), (0xA490, 0xA4C6, 1)]

/-- The script Zanabazar Square. -/
def zanabazarSquareRuns : Runs := [
  (0x11A00, 0x11A47, 1)]

end Contracts.Unicode.Script
