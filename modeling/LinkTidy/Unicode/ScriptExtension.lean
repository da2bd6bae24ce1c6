import LinkTidy.Unicode.CharSet
/-!
The characters that each script takes from other scripts, most of them from those shared by all.
-/

set_option autoImplicit false
set_option maxRecDepth 20000

namespace LinkTidy.Unicode.ScriptExtension

def adlam : Ranges :=
  [
    0x61F, 0x61F, 0x640, 0x640, 0x204F, 0x204F, 0x2E41, 0x2E41]

def arabic : Ranges :=
  [
    0x60C, 0x60C, 0x61B, 0x61B, 0x61F, 0x61F, 0x640, 0x640, 0x64B, 0x655, 0x670, 0x670, 0x204F, 0x204F,
    0x2E41, 0x2E41, 0xFD3E, 0xFD3F, 0x102E0, 0x102FB]

def armenian : Ranges :=
  [
    0x308, 0x308]

def avestan : Ranges :=
  [
    0xB7, 0xB7, 0x2E30, 0x2E31]

def bengali : Ranges :=
  [
    0x2BC, 0x2BC, 0x951, 0x952, 0x964, 0x965, 0x1CD0, 0x1CD0, 0x1CD2, 0x1CD2, 0x1CD5, 0x1CD6, 0x1CD8, 0x1CD8,
    0x1CE1, 0x1CE1, 0x1CEA, 0x1CEA, 0x1CED, 0x1CED, 0x1CF2, 0x1CF2, 0x1CF5, 0x1CF7, 0xA8F1, 0xA8F1]

def bopomofo : Ranges :=
  [
    0x2C7, 0x2C7, 0x2C9, 0x2CB, 0x2D9, 0x2D9, 0x3001, 0x3003, 0x3008, 0x3011, 0x3013, 0x301F, 0x302A, 0x302D,
    0x3030, 0x3030, 0x3037, 0x3037, 0x30FB, 0x30FB, 0xFE45, 0xFE46, 0xFF61, 0xFF65]

def buginese : Ranges :=
  [
    0xA9CF, 0xA9CF]

def buhid : Ranges :=
  [
    0x1735, 0x1736]

def carian : Ranges :=
  [
    0xB7, 0xB7, 0x205A, 0x205A, 0x205D, 0x205D, 0x2E31, 0x2E31]

def caucasianAlbanian : Ranges :=
  [
    0x304, 0x304, 0x331, 0x331, 0x35E, 0x35E]

def chakma : Ranges :=
  [
    0x9E6, 0x9EF, 0x1040, 0x1049]

def cherokee : Ranges :=
  [
    0x300, 0x302, 0x304, 0x304, 0x30B, 0x30C, 0x323, 0x324, 0x330, 0x331]

def coptic : Ranges :=
  [
    0xB7, 0xB7, 0x300, 0x300, 0x304, 0x305, 0x307, 0x307, 0x374, 0x375, 0x2E17, 0x2E17, 0x102E0, 0x102FB]

def cypriot : Ranges :=
  [
    0x10100, 0x10102, 0x10107, 0x10133, 0x10137, 0x1013F]

def cyproMinoan : Ranges :=
  [
    0x10100, 0x10101]

def cyrillic : Ranges :=
  [
    0x2BC, 0x2BC, 0x300, 0x302, 0x304, 0x304, 0x306, 0x306, 0x308, 0x308, 0x30B, 0x30B, 0x311, 0x311, 0x485, 0x486,
    0x1DF8, 0x1DF8, 0x2E43, 0x2E43]

def devanagari : Ranges :=
  [
    0x2BC, 0x2BC, 0x951, 0x952, 0x964, 0x965, 0x1CD0, 0x1CF6, 0x1CF8, 0x1CF9, 0x20F0, 0x20F0, 0xA830, 0xA839]

def dogra : Ranges :=
  [
    0x964, 0x96F, 0xA830, 0xA839]

def duployan : Ranges :=
  [
    0xB7, 0xB7, 0x307, 0x308, 0x30A, 0x30A, 0x323, 0x324, 0x2E3C, 0x2E3C, 0x1BCA0, 0x1BCA3]

def elbasan : Ranges :=
  [
    0xB7, 0xB7, 0x305, 0x305]

def ethiopic : Ranges :=
  [
    0x30E, 0x30E]

def garay : Ranges :=
  [
    0x60C, 0x60C, 0x61B, 0x61B, 0x61F, 0x61F]

def georgian : Ranges :=
  [
    0xB7, 0xB7, 0x589, 0x589, 0x10FB, 0x10FB, 0x205A, 0x205A, 0x2E31, 0x2E31]

def glagolitic : Ranges :=
  [
    0xB7, 0xB7, 0x303, 0x303, 0x305, 0x305, 0x484, 0x484, 0x487, 0x487, 0x589, 0x589, 0x10FB, 0x10FB,
    0x205A, 0x205A, 0x2E43, 0x2E43, 0xA66F, 0xA66F]

def gothic : Ranges :=
  [
    0xB7, 0xB7, 0x304, 0x305, 0x308, 0x308, 0x331, 0x331]

def grantha : Ranges :=
  [
    0x951, 0x952, 0x964, 0x965, 0xBE6, 0xBF3, 0x1CD0, 0x1CD0, 0x1CD2, 0x1CD3, 0x1CF2, 0x1CF4, 0x1CF8, 0x1CF9,
    0x20F0, 0x20F0, 0x1133B, 0x1133B, 0x11FD0, 0x11FD1, 0x11FD3, 0x11FD3]

def greek : Ranges :=
  [
    0xB7, 0xB7, 0x300, 0x301, 0x304, 0x304, 0x306, 0x306, 0x308, 0x308, 0x313, 0x313, 0x342, 0x342, 0x345, 0x345,
    0x374, 0x374, 0x1DC0, 0x1DC1, 0x205D, 0x205D]

def gujarati : Ranges :=
  [
    0x951, 0x952, 0x964, 0x965, 0xA830, 0xA839]

def gunjalaGondi : Ranges :=
  [
    0xB7, 0xB7, 0x964, 0x965]

def gurmukhi : Ranges :=
  [
    0x951, 0x952, 0x964, 0x965, 0xA830, 0xA839]

def gurungKhema : Ranges :=
  [
    0x965, 0x965]

def han : Ranges :=
  [
    0xB7, 0xB7, 0x2FF0, 0x2FFF, 0x3001, 0x3003, 0x3006, 0x3006, 0x3008, 0x3011, 0x3013, 0x301F, 0x302A, 0x302D,
    0x3030, 0x3030, 0x3037, 0x3037, 0x303C, 0x303F, 0x30FB, 0x30FB, 0x3190, 0x319F, 0x31C0, 0x31E5, 0x31EF, 0x31EF,
    0x3220, 0x3247, 0x3280, 0x32B0, 0x32C0, 0x32CB, 0x32FF, 0x32FF, 0x3358, 0x3370, 0x337B, 0x337F, 0x33E0, 0x33FE,
    0xA700, 0xA707, 0xFE45, 0xFE46, 0xFF61, 0xFF65, 0x1D360, 0x1D371, 0x1F250, 0x1F251]

def hangul : Ranges :=
  [
    0x3001, 0x3003, 0x3008, 0x3011, 0x3013, 0x301F, 0x3030, 0x3030, 0x3037, 0x3037, 0x30FB, 0x30FB, 0xFE45, 0xFE46,
    0xFF61, 0xFF65]

def hanifiRohingya : Ranges :=
  [
    0x60C, 0x60C, 0x61B, 0x61B, 0x61F, 0x61F, 0x640, 0x640, 0x6D4, 0x6D4]

def hanunoo : Ranges :=
  [
    0x1735, 0x1736]

def hebrew : Ranges :=
  [
    0x307, 0x308]

def hiragana : Ranges :=
  [
    0x3001, 0x3003, 0x3008, 0x3011, 0x3013, 0x301F, 0x3030, 0x3035, 0x3037, 0x3037, 0x303C, 0x303D, 0x3099, 0x309C,
    0x30A0, 0x30A0, 0x30FB, 0x30FC, 0xFE45, 0xFE46, 0xFF61, 0xFF65, 0xFF70, 0xFF70, 0xFF9E, 0xFF9F]

def javanese : Ranges :=
  [
    0xA9CF, 0xA9CF]

def kaithi : Ranges :=
  [
    0x966, 0x96F, 0x2E31, 0x2E31, 0xA830, 0xA839]

def kannada : Ranges :=
  [
    0x951, 0x952, 0x964, 0x965, 0x1CD0, 0x1CD0, 0x1CD2, 0x1CD3, 0x1CDA, 0x1CDA, 0x1CF2, 0x1CF2, 0x1CF4, 0x1CF4,
    0xA830, 0xA835]

def katakana : Ranges :=
  [
    0x305, 0x305, 0x323, 0x323, 0x3001, 0x3003, 0x3008, 0x3011, 0x3013, 0x301F, 0x3030, 0x3035, 0x3037, 0x3037,
    0x303C, 0x303D, 0x3099, 0x309C, 0x30A0, 0x30A0, 0x30FB, 0x30FC, 0xFE45, 0xFE46, 0xFF61, 0xFF65, 0xFF70, 0xFF70,
    0xFF9E, 0xFF9F]

def kayahLi : Ranges :=
  [
    0xA92E, 0xA92E]

def khojki : Ranges :=
  [
    0xAE6, 0xAEF, 0xA830, 0xA839]

def khudawadi : Ranges :=
  [
    0x964, 0x965, 0xA830, 0xA839]

def latin : Ranges :=
  [
    0xB7, 0xB7, 0x2BC, 0x2BC, 0x2C7, 0x2C7, 0x2C9, 0x2CB, 0x2CD, 0x2CD, 0x2D7, 0x2D7, 0x2D9, 0x2D9, 0x300, 0x30E,
    0x310, 0x311, 0x313, 0x313, 0x323, 0x325, 0x32D, 0x32E, 0x330, 0x331, 0x358, 0x358, 0x35E, 0x35E, 0x363, 0x36F,
    0x485, 0x486, 0x951, 0x952, 0x10FB, 0x10FB, 0x1DF8, 0x1DF8, 0x202F, 0x202F, 0x20F0, 0x20F0, 0x2E17, 0x2E17,
    0xA700, 0xA707, 0xA92E, 0xA92E]

def limbu : Ranges :=
  [
    0x965, 0x965]

def linearA : Ranges :=
  [
    0x10107, 0x10133]

def linearB : Ranges :=
  [
    0x10100, 0x10102, 0x10107, 0x10133, 0x10137, 0x1013F]

def lisu : Ranges :=
  [
    0x2BC, 0x2BC, 0x2CD, 0x2CD, 0x300A, 0x300B]

def lycian : Ranges :=
  [
    0x205A, 0x205A]

def lydian : Ranges :=
  [
    0xB7, 0xB7, 0x2E31, 0x2E31]

def mahajani : Ranges :=
  [
    0xB7, 0xB7, 0x964, 0x96F, 0xA830, 0xA839]

def malayalam : Ranges :=
  [
    0x951, 0x952, 0x964, 0x965, 0x1CDA, 0x1CDA, 0x1CF2, 0x1CF2, 0xA830, 0xA832]

def mandaic : Ranges :=
  [
    0x640, 0x640]

def manichaean : Ranges :=
  [
    0x640, 0x640]

def masaramGondi : Ranges :=
  [
    0x964, 0x965]

def meroiticHieroglyphs : Ranges :=
  [
    0x205D, 0x205D]

def modi : Ranges :=
  [
    0xA830, 0xA839]

def mongolian : Ranges :=
  [
    0x1802, 0x1803, 0x1805, 0x1805, 0x202F, 0x202F, 0x3001, 0x3002, 0x3008, 0x300B]

def multani : Ranges :=
  [
    0xA66, 0xA6F]

def myanmar : Ranges :=
  [
    0xA92E, 0xA92E]

def nandinagari : Ranges :=
  [
    0x951, 0x951, 0x964, 0x965, 0xCE6, 0xCEF, 0x1CE9, 0x1CE9, 0x1CF2, 0x1CF2, 0x1CFA, 0x1CFA, 0xA830, 0xA835]

def newa : Ranges :=
  [
    0x951, 0x952, 0x1CD5, 0x1CD5, 0x1CD7, 0x1CD8, 0x1CE2, 0x1CE2, 0x1CE9, 0x1CE9, 0x1CEB, 0x1CEB, 0x1CED, 0x1CED]

def nko : Ranges :=
  [
    0x60C, 0x60C, 0x61B, 0x61B, 0x61F, 0x61F, 0xFD3E, 0xFD3F]

def olOnal : Ranges :=
  [
    0x964, 0x965]

def oldHungarian : Ranges :=
  [
    0x205A, 0x205A, 0x205D, 0x205D, 0x2E31, 0x2E31, 0x2E41, 0x2E41]

def oldPermic : Ranges :=
  [
    0xB7, 0xB7, 0x300, 0x300, 0x306, 0x308, 0x313, 0x313, 0x483, 0x483]

def oldTurkic : Ranges :=
  [
    0x205A, 0x205A, 0x2E30, 0x2E30]

def oldUyghur : Ranges :=
  [
    0x640, 0x640, 0x10AF2, 0x10AF2]

def oriya : Ranges :=
  [
    0x951, 0x952, 0x964, 0x965, 0x1CDA, 0x1CDA, 0x1CF2, 0x1CF2]

def osage : Ranges :=
  [
    0x301, 0x301, 0x304, 0x304, 0x30B, 0x30B, 0x358, 0x358]

def phagsPa : Ranges :=
  [
    0x1802, 0x1803, 0x1805, 0x1805, 0x202F, 0x202F, 0x3002, 0x3002]

def psalterPahlavi : Ranges :=
  [
    0x640, 0x640]

def runic : Ranges :=
  [
    0x16EB, 0x16ED]

def samaritan : Ranges :=
  [
    0x2E31, 0x2E31]

def sharada : Ranges :=
  [
    0x951, 0x951, 0x1CD7, 0x1CD7, 0x1CD9, 0x1CD9, 0x1CDC, 0x1CDD, 0x1CE0, 0x1CE0, 0x1CEA, 0x1CEA, 0x1CED, 0x1CED,
    0xA830, 0xA835, 0xA838, 0xA838]

def shavian : Ranges :=
  [
    0xB7, 0xB7]

def sinhala : Ranges :=
  [
    0x964, 0x965, 0x1CF2, 0x1CF2]

def sogdian : Ranges :=
  [
    0x640, 0x640]

def sunuwar : Ranges :=
  [
    0x300, 0x301, 0x303, 0x303, 0x30D, 0x30D, 0x310, 0x310, 0x32D, 0x32D, 0x331, 0x331]

def sylotiNagri : Ranges :=
  [
    0x964, 0x965, 0x9E6, 0x9EF]

def syriac : Ranges :=
  [
    0x303, 0x304, 0x307, 0x308, 0x30A, 0x30A, 0x323, 0x325, 0x32D, 0x32E, 0x330, 0x331, 0x60C, 0x60C, 0x61B, 0x61C,
    0x61F, 0x61F, 0x640, 0x640, 0x64B, 0x655, 0x670, 0x670, 0x1DF8, 0x1DF8, 0x1DFA, 0x1DFA]

def tagalog : Ranges :=
  [
    0x1735, 0x1736]

def tagbanwa : Ranges :=
  [
    0x1735, 0x1736]

def taiLe : Ranges :=
  [
    0x300, 0x301, 0x307, 0x308, 0x30C, 0x30C, 0x1040, 0x1049]

def takri : Ranges :=
  [
    0x964, 0x965, 0xA830, 0xA839]

def tamil : Ranges :=
  [
    0x951, 0x952, 0x964, 0x965, 0x1CDA, 0x1CDA, 0xA8F3, 0xA8F3, 0x11301, 0x11301, 0x11303, 0x11303, 0x1133B, 0x1133C]

def tangut : Ranges :=
  [
    0x2FF0, 0x2FFF, 0x31EF, 0x31EF]

def telugu : Ranges :=
  [
    0x951, 0x952, 0x964, 0x965, 0x1CD5, 0x1CD6, 0x1CD8, 0x1CD8, 0x1CDA, 0x1CDA, 0x1CF2, 0x1CF2]

def thaana : Ranges :=
  [
    0x60C, 0x60C, 0x61B, 0x61C, 0x61F, 0x61F, 0x660, 0x669, 0xFDF2, 0xFDF2, 0xFDFD, 0xFDFD]

def thai : Ranges :=
  [
    0x2BC, 0x2BC, 0x2D7, 0x2D7, 0x303, 0x303, 0x331, 0x331]

def tibetan : Ranges :=
  [
    0x3008, 0x300B]

def tifinagh : Ranges :=
  [
    0x302, 0x302, 0x304, 0x304, 0x306, 0x309, 0x323, 0x323]

def tirhuta : Ranges :=
  [
    0x951, 0x952, 0x964, 0x965, 0x1CD5, 0x1CD5, 0x1CE2, 0x1CE2, 0x1CF2, 0x1CF2, 0xA830, 0xA839]

def todhri : Ranges :=
  [
    0x301, 0x301, 0x304, 0x304, 0x307, 0x307, 0x311, 0x311, 0x313, 0x313, 0x35E, 0x35E]

def toto : Ranges :=
  [
    0x2BC, 0x2BC]

def tuluTigalari : Ranges :=
  [
    0xCE6, 0xCEF, 0x1CF2, 0x1CF2, 0x1CF4, 0x1CF4, 0xA830, 0xA835, 0xA8F1, 0xA8F1]

def yezidi : Ranges :=
  [
    0x60C, 0x60C, 0x61B, 0x61B, 0x61F, 0x61F, 0x660, 0x669]

def yi : Ranges :=
  [
    0x3001, 0x3002, 0x3008, 0x3011, 0x3014, 0x301B, 0x30FB, 0x30FB, 0xFF61, 0xFF65]

def borrowed : List (List String × Ranges) :=
  [
    (["adlm", "adlam"], adlam),
    (["arab", "arabic"], arabic),
    (["armn", "armenian"], armenian),
    (["avst", "avestan"], avestan),
    (["beng", "bengali"], bengali),
    (["bopo", "bopomofo"], bopomofo),
    (["bugi", "buginese"], buginese),
    (["buhd", "buhid"], buhid),
    (["cari", "carian"], carian),
    (["aghb", "caucasianalbanian"], caucasianAlbanian),
    (["cakm", "chakma"], chakma),
    (["cher", "cherokee"], cherokee),
    (["copt", "coptic", "qaac"], coptic),
    (["cprt", "cypriot"], cypriot),
    (["cpmn", "cyprominoan"], cyproMinoan),
    (["cyrl", "cyrillic"], cyrillic),
    (["deva", "devanagari"], devanagari),
    (["dogr", "dogra"], dogra),
    (["dupl", "duployan"], duployan),
    (["elba", "elbasan"], elbasan),
    (["ethi", "ethiopic"], ethiopic),
    (["gara", "garay"], garay),
    (["geor", "georgian"], georgian),
    (["glag", "glagolitic"], glagolitic),
    (["goth", "gothic"], gothic),
    (["gran", "grantha"], grantha),
    (["grek", "greek"], greek),
    (["gujr", "gujarati"], gujarati),
    (["gong", "gunjalagondi"], gunjalaGondi),
    (["guru", "gurmukhi"], gurmukhi),
    (["gukh", "gurungkhema"], gurungKhema),
    (["hani", "han"], han),
    (["hang", "hangul"], hangul),
    (["rohg", "hanifirohingya"], hanifiRohingya),
    (["hano", "hanunoo"], hanunoo),
    (["hebr", "hebrew"], hebrew),
    (["hira", "hiragana"], hiragana),
    (["java", "javanese"], javanese),
    (["kthi", "kaithi"], kaithi),
    (["knda", "kannada"], kannada),
    (["kana", "katakana"], katakana),
    (["kali", "kayahli"], kayahLi),
    (["khoj", "khojki"], khojki),
    (["sind", "khudawadi"], khudawadi),
    (["latn", "latin"], latin),
    (["limb", "limbu"], limbu),
    (["lina", "lineara"], linearA),
    (["linb", "linearb"], linearB),
    (["lisu"], lisu),
    (["lyci", "lycian"], lycian),
    (["lydi", "lydian"], lydian),
    (["mahj", "mahajani"], mahajani),
    (["mlym", "malayalam"], malayalam),
    (["mand", "mandaic"], mandaic),
    (["mani", "manichaean"], manichaean),
    (["gonm", "masaramgondi"], masaramGondi),
    (["mero", "meroitichieroglyphs"], meroiticHieroglyphs),
    (["modi"], modi),
    (["mong", "mongolian"], mongolian),
    (["mult", "multani"], multani),
    (["mymr", "myanmar"], myanmar),
    (["nand", "nandinagari"], nandinagari),
    (["newa"], newa),
    (["nkoo", "nko"], nko),
    (["onao", "olonal"], olOnal),
    (["hung", "oldhungarian"], oldHungarian),
    (["perm", "oldpermic"], oldPermic),
    (["orkh", "oldturkic"], oldTurkic),
    (["ougr", "olduyghur"], oldUyghur),
    (["orya", "oriya"], oriya),
    (["osge", "osage"], osage),
    (["phag", "phagspa"], phagsPa),
    (["phlp", "psalterpahlavi"], psalterPahlavi),
    (["runr", "runic"], runic),
    (["samr", "samaritan"], samaritan),
    (["shrd", "sharada"], sharada),
    (["shaw", "shavian"], shavian),
    (["sinh", "sinhala"], sinhala),
    (["sogd", "sogdian"], sogdian),
    (["sunu", "sunuwar"], sunuwar),
    (["sylo", "sylotinagri"], sylotiNagri),
    (["syrc", "syriac"], syriac),
    (["tglg", "tagalog"], tagalog),
    (["tagb", "tagbanwa"], tagbanwa),
    (["tale", "taile"], taiLe),
    (["takr", "takri"], takri),
    (["taml", "tamil"], tamil),
    (["tang", "tangut"], tangut),
    (["telu", "telugu"], telugu),
    (["thaa", "thaana"], thaana),
    (["thai"], thai),
    (["tibt", "tibetan"], tibetan),
    (["tfng", "tifinagh"], tifinagh),
    (["tirh", "tirhuta"], tirhuta),
    (["todr", "todhri"], todhri),
    (["toto"], toto),
    (["tutg", "tulutigalari"], tuluTigalari),
    (["yezi", "yezidi"], yezidi),
    (["yiii", "yi"], yi)]

def borrowedBySome : CharSet :=
  .unions (borrowed.map fun (_, ranges) => .table ranges)

end LinkTidy.Unicode.ScriptExtension
