import FixtureProbe.Text.CharRange

/-!
# What characters become in domain names

Capital letters become small, variants of characters become plain, some characters do not count, and
some may not stand in a name at all. A code point that stands for no character is taken as it is.
-/

namespace FixtureProbe
namespace Domain

def ignored : CharRanges :=
  [(0xAD, 0xAD), (0x34F, 0x34F), (0x115F, 0x1160), (0x17B4, 0x17B5), (0x180B, 0x180F),
   (0x200B, 0x200B), (0x2060, 0x2064), (0x206A, 0x206F), (0x3164, 0x3164), (0xFE00, 0xFE0F),
   (0xFEFF, 0xFEFF), (0xFFA0, 0xFFA0), (0x1BCA0, 0x1BCA3), (0x1D173, 0x1D17A), (0xE0100, 0xE01EF)]

/-- The characters outside ASCII that may not stand in a name, or that stand for a blank. -/
def refused : CharRanges :=
  [(0x80, 0xA0), (0xA8, 0xA8), (0xAF, 0xAF), (0xB4, 0xB4), (0xB8, 0xB8), (0x2D8, 0x2DD),
   (0x37A, 0x37A), (0x384, 0x385), (0x600, 0x605), (0x61C, 0x61C), (0x6DD, 0x6DD), (0x70F, 0x70F),
   (0x890, 0x891), (0x8E2, 0x8E2), (0x1680, 0x1680), (0x1FBD, 0x1FBD), (0x1FBF, 0x1FC1),
   (0x1FCD, 0x1FCF), (0x1FDD, 0x1FDF), (0x1FED, 0x1FEE), (0x1FFD, 0x1FFE), (0x2000, 0x200A),
   (0x200E, 0x200F), (0x2017, 0x2017), (0x2024, 0x2026), (0x2028, 0x202F), (0x203E, 0x203E),
   (0x205F, 0x205F), (0x2066, 0x2069), (0x2488, 0x249B), (0x2FF0, 0x3000), (0x309B, 0x309C),
   (0x31EF, 0x31EF), (0x33C2, 0x33C2), (0x33C7, 0x33C7), (0x33D8, 0x33D8), (0xE000, 0xF8FF),
   (0xFC5E, 0xFC63), (0xFDD0, 0xFDEF), (0xFDFA, 0xFDFB), (0xFE12, 0xFE12), (0xFE19, 0xFE19),
   (0xFE30, 0xFE30), (0xFE49, 0xFE4C), (0xFE52, 0xFE52), (0xFE70, 0xFE70), (0xFE72, 0xFE72),
   (0xFE74, 0xFE74), (0xFE76, 0xFE76), (0xFE78, 0xFE78), (0xFE7A, 0xFE7A), (0xFE7C, 0xFE7C),
   (0xFE7E, 0xFE7E), (0xFFE3, 0xFFE3), (0xFFF9, 0xFFFD), (0x110BD, 0x110BD), (0x110CD, 0x110CD),
   (0x13430, 0x1343F), (0x1F100, 0x1F100), (0xE0001, 0xE0001), (0xE0020, 0xE007F),
   (0xF0000, 0xFFFFD), (0x100000, 0x10FFFD)]

def isRefused (c : Char) : Bool :=
  refused.holds c || 0xFFFE ≤ c.toNat % 0x10000

/-- Characters at equal distances, which become as many characters at the same distances. -/
structure Shift where
  first : Nat
  last : Nat
  distance : Nat
  target : Nat

def Shift.image? (shift : Shift) (c : Char) : Option Char :=
  let n := c.toNat
  if shift.first ≤ n ∧ n ≤ shift.last ∧ (n - shift.first) % shift.distance = 0 then
    some (Char.ofNat (n - shift.first + shift.target))
  else none

def shifts : List Shift :=
  [⟨0xC0, 0xD6, 1, 0xE0⟩, ⟨0xD8, 0xDE, 1, 0xF8⟩, ⟨0x100, 0x12E, 2, 0x101⟩, ⟨0x139, 0x13D, 2, 0x13A⟩,
   ⟨0x141, 0x147, 2, 0x142⟩, ⟨0x14A, 0x176, 2, 0x14B⟩, ⟨0x179, 0x17D, 2, 0x17A⟩,
   ⟨0x1A0, 0x1A4, 2, 0x1A1⟩, ⟨0x1CD, 0x1DB, 2, 0x1CE⟩, ⟨0x1DE, 0x1EE, 2, 0x1DF⟩,
   ⟨0x1F8, 0x21E, 2, 0x1F9⟩, ⟨0x222, 0x232, 2, 0x223⟩, ⟨0x246, 0x24E, 2, 0x247⟩,
   ⟨0x391, 0x3A1, 1, 0x3B1⟩, ⟨0x3A3, 0x3AB, 1, 0x3C3⟩, ⟨0x3D8, 0x3EE, 2, 0x3D9⟩,
   ⟨0x400, 0x40F, 1, 0x450⟩, ⟨0x410, 0x42F, 1, 0x430⟩, ⟨0x460, 0x480, 2, 0x461⟩,
   ⟨0x48A, 0x4BE, 2, 0x48B⟩, ⟨0x4C1, 0x4CD, 2, 0x4C2⟩, ⟨0x4D0, 0x52E, 2, 0x4D1⟩,
   ⟨0x531, 0x556, 1, 0x561⟩, ⟨0x10A0, 0x10C5, 1, 0x2D00⟩, ⟨0x13F8, 0x13FD, 1, 0x13F0⟩,
   ⟨0x1C90, 0x1CBA, 1, 0x10D0⟩, ⟨0x1D33, 0x1D3A, 1, 0x67⟩, ⟨0x1E00, 0x1E94, 2, 0x1E01⟩,
   ⟨0x1EA0, 0x1EFE, 2, 0x1EA1⟩, ⟨0x1F08, 0x1F0F, 1, 0x1F00⟩, ⟨0x1F18, 0x1F1D, 1, 0x1F10⟩,
   ⟨0x1F28, 0x1F2F, 1, 0x1F20⟩, ⟨0x1F38, 0x1F3F, 1, 0x1F30⟩, ⟨0x1F48, 0x1F4D, 1, 0x1F40⟩,
   ⟨0x1F59, 0x1F5F, 2, 0x1F51⟩, ⟨0x1F68, 0x1F6F, 1, 0x1F60⟩, ⟨0x2074, 0x2079, 1, 0x34⟩,
   ⟨0x2080, 0x2089, 1, 0x30⟩, ⟨0x2460, 0x2468, 1, 0x31⟩, ⟨0x24B6, 0x24CF, 1, 0x61⟩,
   ⟨0x24D0, 0x24E9, 1, 0x61⟩, ⟨0x2C00, 0x2C2F, 1, 0x2C30⟩, ⟨0x2C67, 0x2C6B, 2, 0x2C68⟩,
   ⟨0x2C80, 0x2CE2, 2, 0x2C81⟩, ⟨0x313A, 0x313F, 1, 0x11B0⟩, ⟨0x3145, 0x314E, 1, 0x1109⟩,
   ⟨0x314F, 0x3163, 1, 0x1161⟩, ⟨0x3178, 0x317C, 1, 0x112B⟩, ⟨0x3269, 0x326D, 1, 0x110E⟩,
   ⟨0x32E4, 0x32E9, 1, 0x30CA⟩, ⟨0x32EE, 0x32F2, 1, 0x30DE⟩, ⟨0x32F5, 0x32FA, 1, 0x30E8⟩,
   ⟨0xA640, 0xA66C, 2, 0xA641⟩, ⟨0xA680, 0xA69A, 2, 0xA681⟩, ⟨0xA722, 0xA72E, 2, 0xA723⟩,
   ⟨0xA732, 0xA76E, 2, 0xA733⟩, ⟨0xA77E, 0xA786, 2, 0xA77F⟩, ⟨0xA796, 0xA7A8, 2, 0xA797⟩,
   ⟨0xA7B4, 0xA7C2, 2, 0xA7B5⟩, ⟨0xA7CC, 0xA7DA, 2, 0xA7CD⟩, ⟨0xAB70, 0xABBF, 1, 0x13A0⟩,
   ⟨0xFF01, 0xFF20, 1, 0x21⟩, ⟨0xFF21, 0xFF3A, 1, 0x61⟩, ⟨0xFF3B, 0xFF5E, 1, 0x5B⟩,
   ⟨0xFF85, 0xFF8A, 1, 0x30CA⟩, ⟨0xFF8F, 0xFF93, 1, 0x30DE⟩, ⟨0xFF96, 0xFF9B, 1, 0x30E8⟩,
   ⟨0xFFAA, 0xFFAF, 1, 0x11B0⟩, ⟨0xFFB5, 0xFFBE, 1, 0x1109⟩, ⟨0xFFC2, 0xFFC7, 1, 0x1161⟩,
   ⟨0xFFCA, 0xFFCF, 1, 0x1167⟩, ⟨0xFFD2, 0xFFD7, 1, 0x116D⟩, ⟨0x10400, 0x10427, 1, 0x10428⟩,
   ⟨0x104B0, 0x104D3, 1, 0x104D8⟩, ⟨0x10570, 0x1057A, 1, 0x10597⟩, ⟨0x1057C, 0x1058A, 1, 0x105A3⟩,
   ⟨0x1058C, 0x10592, 1, 0x105B3⟩, ⟨0x10C80, 0x10CB2, 1, 0x10CC0⟩, ⟨0x10D50, 0x10D65, 1, 0x10D70⟩,
   ⟨0x118A0, 0x118BF, 1, 0x118C0⟩, ⟨0x16E40, 0x16E5F, 1, 0x16E60⟩, ⟨0x16EA0, 0x16EB8, 1, 0x16EBB⟩,
   ⟨0x1CCD6, 0x1CCEF, 1, 0x61⟩, ⟨0x1CCF0, 0x1CCF9, 1, 0x30⟩, ⟨0x1D400, 0x1D419, 1, 0x61⟩,
   ⟨0x1D41A, 0x1D433, 1, 0x61⟩, ⟨0x1D434, 0x1D44D, 1, 0x61⟩, ⟨0x1D44E, 0x1D454, 1, 0x61⟩,
   ⟨0x1D456, 0x1D467, 1, 0x69⟩, ⟨0x1D468, 0x1D481, 1, 0x61⟩, ⟨0x1D482, 0x1D49B, 1, 0x61⟩,
   ⟨0x1D4AE, 0x1D4B5, 1, 0x73⟩, ⟨0x1D4B7, 0x1D4BB, 2, 0x62⟩, ⟨0x1D4BD, 0x1D4C3, 1, 0x68⟩,
   ⟨0x1D4C5, 0x1D4CF, 1, 0x70⟩, ⟨0x1D4D0, 0x1D4E9, 1, 0x61⟩, ⟨0x1D4EA, 0x1D503, 1, 0x61⟩,
   ⟨0x1D505, 0x1D509, 2, 0x62⟩, ⟨0x1D50D, 0x1D514, 1, 0x6A⟩, ⟨0x1D516, 0x1D51C, 1, 0x73⟩,
   ⟨0x1D51E, 0x1D537, 1, 0x61⟩, ⟨0x1D539, 0x1D53D, 2, 0x62⟩, ⟨0x1D540, 0x1D544, 1, 0x69⟩,
   ⟨0x1D54A, 0x1D550, 1, 0x73⟩, ⟨0x1D552, 0x1D56B, 1, 0x61⟩, ⟨0x1D56C, 0x1D585, 1, 0x61⟩,
   ⟨0x1D586, 0x1D59F, 1, 0x61⟩, ⟨0x1D5A0, 0x1D5B9, 1, 0x61⟩, ⟨0x1D5BA, 0x1D5D3, 1, 0x61⟩,
   ⟨0x1D5D4, 0x1D5ED, 1, 0x61⟩, ⟨0x1D5EE, 0x1D607, 1, 0x61⟩, ⟨0x1D608, 0x1D621, 1, 0x61⟩,
   ⟨0x1D622, 0x1D63B, 1, 0x61⟩, ⟨0x1D63C, 0x1D655, 1, 0x61⟩, ⟨0x1D656, 0x1D66F, 1, 0x61⟩,
   ⟨0x1D670, 0x1D689, 1, 0x61⟩, ⟨0x1D68A, 0x1D6A3, 1, 0x61⟩, ⟨0x1D6A8, 0x1D6B8, 1, 0x3B1⟩,
   ⟨0x1D6BA, 0x1D6C0, 1, 0x3C3⟩, ⟨0x1D6C2, 0x1D6D2, 1, 0x3B1⟩, ⟨0x1D6D4, 0x1D6DA, 1, 0x3C3⟩,
   ⟨0x1D6E2, 0x1D6F2, 1, 0x3B1⟩, ⟨0x1D6F4, 0x1D6FA, 1, 0x3C3⟩, ⟨0x1D6FC, 0x1D70C, 1, 0x3B1⟩,
   ⟨0x1D70E, 0x1D714, 1, 0x3C3⟩, ⟨0x1D71C, 0x1D72C, 1, 0x3B1⟩, ⟨0x1D72E, 0x1D734, 1, 0x3C3⟩,
   ⟨0x1D736, 0x1D746, 1, 0x3B1⟩, ⟨0x1D748, 0x1D74E, 1, 0x3C3⟩, ⟨0x1D756, 0x1D766, 1, 0x3B1⟩,
   ⟨0x1D768, 0x1D76E, 1, 0x3C3⟩, ⟨0x1D770, 0x1D780, 1, 0x3B1⟩, ⟨0x1D782, 0x1D788, 1, 0x3C3⟩,
   ⟨0x1D790, 0x1D7A0, 1, 0x3B1⟩, ⟨0x1D7A2, 0x1D7A8, 1, 0x3C3⟩, ⟨0x1D7AA, 0x1D7BA, 1, 0x3B1⟩,
   ⟨0x1D7BC, 0x1D7C2, 1, 0x3C3⟩, ⟨0x1D7CE, 0x1D7D7, 1, 0x30⟩, ⟨0x1D7D8, 0x1D7E1, 1, 0x30⟩,
   ⟨0x1D7E2, 0x1D7EB, 1, 0x30⟩, ⟨0x1D7EC, 0x1D7F5, 1, 0x30⟩, ⟨0x1D7F6, 0x1D7FF, 1, 0x30⟩,
   ⟨0x1E030, 0x1E038, 1, 0x430⟩, ⟨0x1E03C, 0x1E046, 1, 0x43E⟩, ⟨0x1E051, 0x1E059, 1, 0x430⟩,
   ⟨0x1E05F, 0x1E064, 1, 0x443⟩, ⟨0x1E900, 0x1E921, 1, 0x1E922⟩, ⟨0x1F130, 0x1F149, 1, 0x61⟩,
   ⟨0x1FBF0, 0x1FBF9, 1, 0x30⟩]

def singles : List (Nat × String) :=
  [(0xAA, "a"), (0xB2, "23"), (0xB5, "μ"), (0xB9, "1o"), (0x134, "ĵĵķ"), (0x178, "ÿ"),
   (0x17F, "sƀɓƃƃƅƅɔƈƈɖɗƌƌƍǝəɛƒƒɠɣƕɩɨƙƙƚƛɯɲƞɵ"), (0x1A6, "ʀƨƨʃƪƫƭƭʈưưʊʋƴƴƶƶʒƹƹƺƻƽ"),
   (0x1F4, "ǵǵƕƿ"), (0x220, "ƞ"), (0x23A, "ⱥȼȼƚⱦȿɀɂɂƀʉʌ"), (0x2B0, "hɦjrɹɻʁwy"), (0x2E0, "ɣlsxʕ"),
   (0x340, "̀́͂̓"), (0x345, "ι"), (0x370, "ͱͱͳͳʹ͵ͷ"), (0x37E, ";ϳ"), (0x386, "ά·έήί"), (0x38C, "ό"),
   (0x38E, "ύώ"), (0x3CF, "ϗβθυύϋφπ"), (0x3F0, "κρσϳθε϶ϸϸσϻϻϼͻͼͽ"), (0x4C0, "ӏ"), (0xF0C, "་"),
   (0x10C7, "ⴧ"), (0x10CD, "ⴭ"), (0x10FC, "ნ"), (0x1C80, "вдосттъѣꙋᲊ"), (0x1CBD, "ჽჾჿ"),
   (0x1D2C, "aæbᴯdeǝ"), (0x1D3C, "oȣprtuwaɐɑᴂbdeəɛɜgᵎkmŋoɔᴖᴗptuᴝɯvᴥβγδφχiruvβγρφχ"), (0x1D78, "н"),
   (0x1D9B, "ɒcɕðɜfɟɡɥɨɩɪᵻʝɭᶅʟɱɰɲɳɴɵɸʂʃƫʉʊᴜʋʌzʐʑʒθ"), (0x1E9B, "ṡẜẝß"), (0x1F71, "άὲέὴήὶίὸόὺύὼώ"),
   (0x1FB8, "ᾰᾱὰά"), (0x1FBE, "ι"), (0x1FC8, "ὲέὴή"), (0x1FD3, "ΐ"), (0x1FD8, "ῐῑὶί"),
   (0x1FE3, "ΰ"), (0x1FE8, "ῠῡὺύῥ"), (0x1FEF, "`"), (0x1FF8, "ὸόὼώ"), (0x2011, "‐"), (0x2070, "0i"),
   (0x207A, "+−=()n"), (0x208A, "+−=()"), (0x2090, "aeoxəhklmnpst"), (0x2102, "c"), (0x2107, "ɛ"),
   (0x210A, "ghhhhħiill℔n"), (0x2119, "pqrrr"), (0x2124, "z℥ω℧z℩kåbc℮eefⅎmoאבגדi"),
   (0x213C, "πγγπ∑"), (0x2145, "ddeij"), (0x2160, "i"), (0x2164, "v"), (0x2169, "x"),
   (0x216C, "lcdmi"), (0x2174, "v"), (0x2179, "x"), (0x217C, "lcdmↀↁↂↄ"), (0x2329, "〈〉"),
   (0x24EA, "0"), (0x2C60, "ⱡⱡɫᵽɽ"), (0x2C6D, "ɑɱɐɒⱱⱳⱳⱴⱶ"), (0x2C7C, "jvȿɀ"), (0x2CEB, "ⳬⳬⳮ"),
   (0x2CF2, "ⳳ"), (0x2D6F, "ⵡ"), (0x2E9F, "母"), (0x2EF3, "龟"),
   (0x2F00, "一丨丶丿乙亅二亠人儿入八冂冖冫几凵刀力勹匕匚匸十卜卩厂厶又口囗土士夂夊夕大女子宀寸小尢尸屮山巛工己巾干幺广廴廾弋弓彐彡彳心戈戶手支攴文斗斤方无日曰月木欠"),
   (0x2F4C, "止歹殳毋比毛氏气水火爪父爻爿片牙牛犬玄玉瓜瓦甘生用田疋疒癶白皮皿目矛矢石示禸禾穴立竹米糸缶网羊羽老而耒耳聿肉臣自至臼舌舛舟艮色艸虍虫血行衣襾見角言谷豆豕"),
   (0x2F98, "豸貝赤走足身車辛辰辵邑酉釆里金長門阜隶隹雨靑非面革韋韭音頁風飛食首香馬骨高髟鬥鬯鬲鬼魚鳥鹵鹿麥麻黃黍黑黹黽鼎鼓鼠鼻齊齒龍龜龠"), (0x3002, "."),
   (0x3036, "〒〷十卄卅"), (0x3131, "ᄀᄁᆪᄂᆬᆭᄃᄄᄅ"), (0x3140, "ᄚᄆᄇᄈᄡ"), (0x3165, "ᄔᄕᇇᇈᇌᇎᇓᇗᇙᄜᇝᇟᄝᄞᄠᄢᄣᄧᄩ"),
   (0x317D, "ᄲᄶᅀᅇᅌᇱᇲᅗᅘᅙᆄᆅᆈᆑᆒᆔᆞᆡ"), (0x3192, "一二三四上中下甲乙丙丁天地人"), (0x3244, "問幼文箏"),
   (0x3260, "ᄀᄂᄃᄅᄆᄇᄉᄋᄌ"), (0x326E, "가나다라마바사아자차카타파하"),
   (0x327E, "우㉿一二三四五六七八九十月火水木金土日株有社名特財祝労秘男女適優印注項休写正上中下左右医宗学監企資協夜"),
   (0x32D0, "アイウエオカキクケコサシスセソタチツテト"), (0x32EA, "ヒフヘホ"), (0x32F3, "ヤユ"), (0x32FB, "ワヰヱヲ"),
   (0xA69C, "ъь"), (0xA770, "ꝯ"), (0xA779, "ꝺꝺꝼꝼᵹ"), (0xA78B, "ꞌꞌɥꞎꞏꞑꞑꞓ"), (0xA7AA, "ɦɜɡɬɪꞯʞʇʝꭓ"),
   (0xA7C4, "ꞔʂᶎꟈꟈꟊꟊɤ"), (0xA7DC, "ƛ"), (0xA7F1, "scfqꟶꟶꟷħœ"), (0xAB5C, "ꜧꬷɫꭒ"), (0xAB69, "ʍ"),
   (0xF900, "豈更車賈滑串句龜龜契金喇奈懶癩羅蘿螺裸邏樂洛烙珞落酪駱亂卵欄爛蘭鸞嵐濫藍襤拉臘蠟廊朗浪狼郎來冷勞擄櫓爐盧老蘆虜路露魯鷺碌祿綠菉錄鹿論壟弄籠聾牢磊賂雷壘屢"),
   (0xF94C, "樓淚漏累縷陋勒肋凜凌稜綾菱陵讀拏樂諾丹寧怒率異北磻便復不泌數索參塞省葉說殺辰沈拾若掠略亮兩凉梁糧良諒量勵呂女廬旅濾礪閭驪麗黎力曆歷轢年憐戀撚漣煉璉秊練聯"),
   (0xF998, "輦蓮連鍊列劣咽烈裂說廉念捻殮簾獵令囹寧嶺怜玲瑩羚聆鈴零靈領例禮醴隸惡了僚寮尿料樂燎療蓼遼龍暈阮劉杻柳流溜琉留硫紐類六戮陸倫崙淪輪律慄栗率隆利吏履易李梨泥"),
   (0xF9E4, "理痢罹裏裡里離匿溺吝燐璘藺隣鱗麟林淋臨立笠粒狀炙識什茶刺切度拓糖宅洞暴輻行降見廓兀嗀﨎﨏塚﨑晴﨓﨔凞猪益礼神祥福靖精羽﨟蘒﨡諸﨣﨤逸都﨧﨨﨩飯飼館鶴郞隷"),
   (0xFA30, "侮僧免勉勤卑喝嘆器塀墨層屮悔慨憎懲敏既暑梅海渚漢煮爫琢碑社祉祈祐祖祝禍禎穀突節練縉繁署者臭艹艹著褐視謁謹賓贈辶逸難響頻恵𤋮舘"),
   (0xFA70, "並况全侀充冀勇勺喝啕喙嗢塚墳奄奔婢嬨廒廙彩徭惘慎愈憎慠懲戴揄搜摒敖晴朗望杖歹殺流滛滋漢瀞煮瞧爵犯猪瑱甆画瘝瘟益盛直睊着磌窱節类絛練缾者荒華蝹襁覆視調諸請"),
   (0xFABC, "謁諾諭謹變贈輸遲醙鉶陼難靖韛響頋頻鬒龜𢡊𢡄𣏕㮝䀘䀹𥉉𥳐𧻓齃龎"), (0xFB20, "עאדהכלםרת+"),
   (0xFB50, "ٱٱٻٻٻٻپپپپڀڀڀڀٺٺٺٺٿٿٿٿٹٹٹٹڤڤڤڤڦڦڦڦڄڄڄڄڃڃڃڃچچچچڇڇڇڇڍڍڌڌڎڎڈڈژژڑڑککککگگگگڳڳڳڳڱڱ"),
   (0xFB9C, "ڱڱںںڻڻڻڻۀۀہہہہھھھھےےۓۓ"), (0xFBD3, "ڭڭڭڭۇۇۆۆۈۈ"), (0xFBDE, "ۋۋۅۅۉۉېېېېىى"),
   (0xFBFC, "یییی"), (0xFE10, ",、"), (0xFE13, ":;!?〖〗"), (0xFE31, "—–__()\x7b\x7d〔〕【】《》〈〉「」『』﹅﹆[]"),
   (0xFE4D, "___,、"), (0xFE54, ";:?!—()\x7b\x7d〔〕#&*+-<>="), (0xFE68, "\\$%@"),
   (0xFE80, "ءآآأأؤؤإإئئئئااببببةةتتتتثثثثججججححححخخخخددذذررززسسسسششششصصصصضضضضططططظظظظععع"),
   (0xFECC, "عغغغغففففققققككككللللممممننننههههووىىيييي"),
   (0xFF5F, "⦅⦆.「」、・ヲァィゥェォャュョッーアイウエオカキクケコサシスセソタチツテト"), (0xFF8B, "ヒフヘホ"), (0xFF94, "ヤユ"),
   (0xFF9C, "ワン゙゚"), (0xFFA1, "ᄀᄁᆪᄂᆬᆭᄃᄄᄅ"), (0xFFB0, "ᄚᄆᄇᄈᄡ"), (0xFFDA, "ᅳᅴᅵ"), (0xFFE0, "¢£¬"),
   (0xFFE4, "¦¥₩"), (0xFFE8, "│←↑→↓■○"), (0x10594, "𐖻𐖼"), (0x10781, "ːˑæʙɓ"),
   (0x10787, "ʣꭦʥʤɖɗᶑɘɞʩɤɢɠʛħʜɧʄʪʫɬ𝼄ꞎɮ𝼅ʎ𝼆øɶɷqɺ𝼈ɽɾʀʨʦꭧʧʈⱱ"), (0x107B2, "ʏʡʢʘǀǁǂ𝼊𝼞"), (0x1D49C, "a"),
   (0x1D49E, "cd"), (0x1D4A2, "g"), (0x1D4A5, "jk"), (0x1D4A9, "nopq"), (0x1D4B6, "abc"),
   (0x1D504, "a"), (0x1D508, "efg"), (0x1D538, "a"), (0x1D53C, "efg"), (0x1D546, "o"),
   (0x1D6A4, "ıȷ"), (0x1D6B9, "θ"), (0x1D6C1, "∇"), (0x1D6D3, "σ"), (0x1D6DB, "∂εθκφρπ"),
   (0x1D6F3, "θ"), (0x1D6FB, "∇"), (0x1D70D, "σ"), (0x1D715, "∂εθκφρπ"), (0x1D72D, "θ"),
   (0x1D735, "∇"), (0x1D747, "σ"), (0x1D74F, "∂εθκφρπ"), (0x1D767, "θ"), (0x1D76F, "∇"),
   (0x1D781, "σ"), (0x1D789, "∂εθκφρπ"), (0x1D7A1, "θ"), (0x1D7A9, "∇"), (0x1D7BB, "σ"),
   (0x1D7C3, "∂εθκφρπϝϝ"), (0x1E039, "клм"), (0x1E047, "ыэюꚉәіјөүӏ"), (0x1E05A, "клопс"),
   (0x1E065, "ъыґіѕџҫꙑұ"), (0x1EE00, "ابجد"), (0x1EE05, "وزحطيكلمنسعفصقرشتثخذضظغٮںڡٯ"),
   (0x1EE21, "بج"), (0x1EE24, "ه"), (0x1EE27, "ح"), (0x1EE29, "يكلمنسعفصق"), (0x1EE34, "شتثخ"),
   (0x1EE39, "ض"), (0x1EE3B, "غ"), (0x1EE42, "ج"), (0x1EE47, "ح"), (0x1EE49, "ي"), (0x1EE4B, "ل"),
   (0x1EE4D, "نسع"), (0x1EE51, "صق"), (0x1EE54, "ش"), (0x1EE57, "خ"), (0x1EE59, "ض"),
   (0x1EE5B, "غ"), (0x1EE5D, "ں"), (0x1EE5F, "ٯ"), (0x1EE61, "بج"), (0x1EE64, "ه"),
   (0x1EE67, "حطيك"), (0x1EE6C, "منسعفصق"), (0x1EE74, "شتثخ"), (0x1EE79, "ضظغٮ"), (0x1EE7E, "ڡ"),
   (0x1EE80, "ابجدهوزحطي"), (0x1EE8B, "لمنسعفصقرشتثخذضظغ"), (0x1EEA1, "بجد"), (0x1EEA5, "وزحطي"),
   (0x1EEAB, "لمنسعفصقرشتثخذضظغ"), (0x1F12B, "cr"), (0x1F202, "サ"),
   (0x1F210, "手字双デ二多解天交映無料前後再新初終生販声吹演投捕一三遊左中右指走打禁空合満有月申割営配"), (0x1F250, "得可"),
   (0x2F800, "丽丸乁𠄢你侮侻倂偺備僧像㒞𠘺免兔兤具𠔜㒹內再𠕋冗冤仌冬况𩇟凵刃㓟刻剆割剷㔕勇勉勤勺包匆北卉卑博即卽卿卿卿𠨬灰及叟𠭣叫叱吆咞吸呈周咢哶唐啓啣善善喙喫喳嗂圖"),
   (0x2F84C, "嘆圗噑噴切壮城埴堍型堲報墬𡓤売壷夆多夢奢𡚨𡛪姬娛娧姘婦㛮㛼嬈嬾嬾𡧈寃寘寧寳𡬘寿将当尢㞁屠屮峀岍𡷤嵃𡷦嵮嵫嵼巡巢㠯巽帨帽幩㡢𢆃㡼庰庳庶廊𪎒廾𢌱𢌱舁弢弢㣇𣊸"),
   (0x2F898, "𦇚形彫㣣徚忍志忹悁㤺㤜悔𢛔惇慈慌慎慌慺憎憲憤憯懞懲懶成戛扝抱拔捐𢬌挽拼捨掃揤𢯱搢揅掩㨮摩摾撝摷㩬敏敬𣀊旣書晉㬙暑㬈㫤冒冕最暜肭䏙朗望朡杞杓𣏃㭉柺枅桒梅𣑭"),
   (0x2F8E4, "梎栟椔㮝楂榣槪檨𣚣櫛㰘次𣢧歔㱎歲殟殺殻𣪍𡴋𣫺汎𣲼沿泍汧洖派海流浩浸涅𣴞洴港湮㴳滋滇𣻑淹潮𣽞𣾎濆瀹瀞瀛㶖灊災灷炭𠔥煅𤉣熜𤎫爨爵牐𤘈犀犕𤜵𤠔獺王㺬玥㺸㺸瑇瑜"),
   (0x2F930, "瑱璅瓊㼛甤𤰶甾𤲒異𢆟瘐𤾡𤾸𥁄㿼䀈直𥃳𥃲𥄙𥄳眞真真睊䀹瞋䁆䂖𥐝硎碌磌䃣𥘦祖𥚚𥛅福秫䄯穀穊穏𥥼𥪧𥪧竮䈂𥮫篆築䈧𥲀糒䊠糨糣紀𥾆絣䌁緇縂繅䌴𦈨𦉇䍙𦋙罺𦌾羕翺者𦓚"),
   (0x2F97C, "𦔣聠𦖨聰𣍟䏕育脃䐋脾媵𦞧𦞵𣎓𣎜舁舄辞䑫芑芋芝劳花芳芽苦𦬼若茝荣莭茣莽菧著荓菊菌菜𦰶𦵫𦳕䔫蓱蓳蔖𧏊蕤𦼬䕝䕡𦾱𧃒䕫虐虜虧虩蚩蚈蜎蛢蝹蜨蝫螆䗗蟡蠁䗹衠衣𧙧裗裞"),
   (0x2F9C8, "䘵裺㒻𧢮𧥦䚾䛇誠諭變豕𧲨貫賁贛起𧼯𠠄跋趼跰𠣞軔輸𨗒𨗭邔郱鄑𨜮鄛鈸鋗鋘鉼鏹鐕𨯺開䦕閷𨵷䧦雃嶲霣𩅅𩈚䩮䩶韠𩐊䪲𩒖頋頋頩𩖶飢䬳餩馧駂駾䯎𩬰鬒鱀鳽䳎䳭鵧𪃎䳸𪄅𪈎"),
   (0x2FA14, "𪊑麻䵖黹黾鼅鼏鼖鼻𪘀")]

/-- What the characters from a code point on become, with blanks in between. -/
def longer : List (Nat × String) :=
  [(0xBC, "1⁄4 1⁄2 3⁄4"), (0x130, "i̇ ı ij ij"), (0x13F, "l· l·"), (0x149, "ʼn"),
   (0x1C4, "dž dž dž lj lj lj nj nj nj"), (0x1F1, "dz dz dz"), (0x344, "̈́"), (0x587, "եւ"),
   (0x675, "اٴ وٴ ۇٴ يٴ"), (0x958, "क़ ख़ ग़ ज़ ड़ ढ़ फ़ य़"), (0x9DC, "ড় ঢ়"), (0x9DF, "য়"),
   (0xA33, "ਲ਼"), (0xA36, "ਸ਼"), (0xA59, "ਖ਼ ਗ਼ ਜ਼"), (0xA5E, "ਫ਼"), (0xB5C, "ଡ଼ ଢ଼"),
   (0xE33, "ํา"), (0xEB3, "ໍາ"), (0xEDC, "ຫນ ຫມ"), (0xF43, "གྷ"), (0xF4D, "ཌྷ"), (0xF52, "དྷ"),
   (0xF57, "བྷ"), (0xF5C, "ཛྷ"), (0xF69, "ཀྵ"), (0xF73, "ཱི ུ ཱུ ྲྀ ྲཱྀ ླྀ ླཱྀ"), (0xF81, "ཱྀ"),
   (0xF93, "ྒྷ"), (0xF9D, "ྜྷ"), (0xFA2, "ྡྷ"), (0xFA7, "ྦྷ"), (0xFAC, "ྫྷ"), (0xFB9, "ྐྵ"),
   (0x1E9A, "aʾ"),
   (0x1F80, "ἀι ἁι ἂι ἃι ἄι ἅι ἆι ἇι ἀι ἁι ἂι ἃι ἄι ἅι ἆι ἇι ἠι ἡι ἢι ἣι ἤι ἥι ἦι ἧι"),
   (0x1F98, "ἠι ἡι ἢι ἣι ἤι ἥι ἦι ἧι ὠι ὡι ὢι ὣι ὤι ὥι ὦι ὧι ὠι ὡι ὢι ὣι ὤι ὥι ὦι ὧι"),
   (0x1FB2, "ὰι αι άι"), (0x1FB7, "ᾶι"), (0x1FBC, "αι"), (0x1FC2, "ὴι ηι ήι"), (0x1FC7, "ῆι"),
   (0x1FCC, "ηι"), (0x1FF2, "ὼι ωι ώι"), (0x1FF7, "ῶι"), (0x1FFC, "ωι"),
   (0x2033, "′′ ′′′ ‵ ‵‵ ‵‵‵"), (0x203C, "!!"), (0x2047, "?? ?! !?"), (0x2057, "′′′′"),
   (0x20A8, "rs"), (0x2100, "a/c a/s c °c ℄ c/o c/u ɛ ℈ °f"), (0x2116, "no"), (0x2120, "sm tel tm"),
   (0x213B, "fax"),
   (0x2150, "1⁄7 1⁄9 1⁄10 1⁄3 2⁄3 1⁄5 2⁄5 3⁄5 4⁄5 1⁄6 5⁄6 1⁄8 3⁄8 5⁄8 7⁄8 1⁄ i ii iii"),
   (0x2163, "iv v vi vii viii ix x xi xii"), (0x2171, "ii iii iv v vi vii viii ix x xi xii"),
   (0x2189, "0⁄3"), (0x222C, "∫∫ ∫∫∫ ∮ ∮∮ ∮∮∮"),
   (0x2469, "10 11 12 13 14 15 16 17 18 19 20 (1) (2) (3) (4) (5) (6) (7) (8) (9) (10)"),
   (0x247E, "(11) (12) (13) (14) (15) (16) (17) (18) (19) (20)"),
   (0x249C, "(a) (b) (c) (d) (e) (f) (g) (h) (i) (j) (k) (l) (m) (n) (o) (p) (q) (r)"),
   (0x24AE, "(s) (t) (u) (v) (w) (x) (y) (z)"), (0x2A0C, "∫∫∫∫"), (0x2A74, "::= == ==="),
   (0x2ADC, "⫝̸"), (0x309F, "より"), (0x30FF, "コト"),
   (0x3200, "(ᄀ) (ᄂ) (ᄃ) (ᄅ) (ᄆ) (ᄇ) (ᄉ) (ᄋ) (ᄌ) (ᄎ) (ᄏ) (ᄐ) (ᄑ) (ᄒ) (가) (나) (다) (라)"),
   (0x3212, "(마) (바) (사) (아) (자) (차) (카) (타) (파) (하) (주) (오전) (오후)"),
   (0x3220, "(一) (二) (三) (四) (五) (六) (七) (八) (九) (十) (月) (火) (水) (木) (金) (土) (日) (株)"),
   (0x3232, "(有) (社) (名) (特) (財) (祝) (労) (代) (呼) (学) (監) (企) (資) (協) (祭) (休) (自) (至)"),
   (0x3250, "pte 21 22 23 24 25 26 27 28 29 30 31 32 33 34 35"), (0x327C, "참고 주의"),
   (0x32B1, "36 37 38 39 40 41 42 43 44 45 46 47 48 49 50 1月 2月 3月 4月 5月 6月 7月 8月 9月"),
   (0x32C9, "10月 11月 12月 hg erg ev ltd"),
   (0x32FF, "令和 アパート アルファ アンペア アール イニング インチ ウォン エスクード エーカー オンス オーム カイリ カラット カロリー ガロン"),
   (0x330F, "ガンマ ギガ ギニー キュリー ギルダー キロ キログラム キロメートル キロワット グラム グラムトン クルゼイロ クローネ ケース コルナ"),
   (0x331E, "コーポ サイクル サンチーム シリング センチ セント ダース デシ ドル トン ナノ ノット ハイツ パーセント パーツ バーレル ピアストル"),
   (0x332F, "ピクル ピコ ビル ファラッド フィート ブッシェル フラン ヘクタール ペソ ペニヒ ヘルツ ペンス ページ ベータ ポイント ボルト ホン"),
   (0x3340, "ポンド ホール ホーン マイクロ マイル マッハ マルク マンション ミクロン ミリ ミリバール メガ メガトン メートル ヤード ヤール ユアン"),
   (0x3351, "リットル リラ ルピー ルーブル レム レントゲン ワット 0点 1点 2点 3点 4点 5点 6点 7点 8点 9点 10点 11点 12点"),
   (0x3365, "13点 14点 15点 16点 17点 18点 19点 20点 21点 22点 23点 24点 hpa da au bar ov pc dm"),
   (0x3378, "dm2 dm3 iu 平成 昭和 大正 明治 株式会社 pa na μa ma ka kb mb gb cal kcal pf nf μf μg"),
   (0x338E, "mg kg hz khz mhz ghz thz μl ml dl kl fm nm μm mm cm km mm2 cm2 m2 km2 mm3"),
   (0x33A4, "cm3 m3 km3 m∕s m∕s2 pa kpa mpa gpa rad rad∕s rad∕s2 ps ns μs ms pv nv μv"),
   (0x33B7, "mv kv mv pw nw μw mw kw mw kω mω"), (0x33C3, "bq cc cd c∕kg"),
   (0x33C8, "db gy ha hp in kk km kt lm ln log lx mb mil mol ph"),
   (0x33D9, "ppm pr sr sv wb v∕m a∕m 1日 2日 3日 4日 5日 6日 7日 8日 9日 10日 11日 12日 13日 14日"),
   (0x33EE, "15日 16日 17日 18日 19日 20日 21日 22日 23日 24日 25日 26日 27日 28日 29日 30日 31日 gal"),
   (0xFB00, "ff fi fl ffi ffl st st"), (0xFB13, "մն մե մի վն մխ"), (0xFB1D, "יִ ﬞ ײַ"),
   (0xFB2A, "שׁ שׂ שּׁ שּׂ אַ אָ אּ בּ גּ דּ הּ וּ זּ"), (0xFB38, "טּ יּ ךּ כּ לּ"), (0xFB3E, "מּ"),
   (0xFB40, "נּ סּ"), (0xFB43, "ףּ פּ"), (0xFB46, "צּ קּ רּ שּ תּ וֹ בֿ כֿ פֿ אל"), (0xFBDD, "ۇٴ"),
   (0xFBEA, "ئا ئا ئە ئە ئو ئو ئۇ ئۇ ئۆ ئۆ ئۈ ئۈ ئې ئې ئې ئى ئى ئى"),
   (0xFC00, "ئج ئح ئم ئى ئي بج بح بخ بم بى بي تج تح تخ تم تى تي ثج ثم ثى ثي جح جم حج"),
   (0xFC18, "حم خج خح خم سج سح سخ سم صح صم ضج ضح ضخ ضم طح طم ظم عج عم غج غم فج فح فخ"),
   (0xFC30, "فم فى في قح قم قى قي كا كج كح كخ كل كم كى كي لج لح لخ لم لى لي مج مح مخ"),
   (0xFC48, "مم مى مي نج نح نخ نم نى ني هج هم هى هي يج يح يخ يم يى يي ذٰ رٰ ىٰ"),
   (0xFC64, "ئر ئز ئم ئن ئى ئي بر بز بم بن بى بي تر تز تم تن تى تي ثر ثز ثم ثن ثى ثي"),
   (0xFC7C, "فى في قى قي كا كل كم كى كي لم لى لي ما مم نر نز نم نن نى ني ىٰ ير يز يم"),
   (0xFC94, "ين يى يي ئج ئح ئخ ئم ئه بج بح بخ بم به تج تح تخ تم ته ثم جح جم حج حم خج"),
   (0xFCAC, "خم سج سح سخ سم صح صخ صم ضج ضح ضخ ضم طح ظم عج عم غج غم فج فح فخ فم قح قم"),
   (0xFCC4, "كج كح كخ كل كم لج لح لخ لم له مج مح مخ مم نج نح نخ نم نه هج هم هٰ يج يح"),
   (0xFCDC, "يخ يم يه ئم ئه بم به تم ته ثم ثه سم سه شم شه كل كم لم نم نه يم يه ـَّ ـُّ"),
   (0xFCF4, "ـِّ طى طي عى عي غى غي سى سي شى شي حى حي جى جي خى خي صى صي ضى ضي شج شح شخ"),
   (0xFD0C, "شم شر سر صر ضر طى طي عى عي غى غي سى سي شى شي حى حي جى جي خى خي صى صي ضى"),
   (0xFD24, "ضي شج شح شخ شم شر سر صر ضر شج شح شخ شم سه شه طم سج سح سخ شج شح شخ طم ظم"),
   (0xFD3C, "اً اً"),
   (0xFD50, "تجم تحج تحج تحم تخم تمج تمح تمخ جمح جمح حمي حمى سحج سجح سجى سمح سمح سمج"),
   (0xFD62, "سمم سمم صحح صحح صمم شحم شحم شجي شمخ شمخ شمم شمم ضحى ضخم ضخم طمح طمح طمم"),
   (0xFD74, "طمي عجم عمم عمم عمى غمم غمي غمى فخم فخم قمح قمم لحم لحي لحى لجج لجج لخم"),
   (0xFD86, "لخم لمح لمح محج محم محي مجح مجم مخج مخم ﶐ ﶑ مجخ همج همم نحم نحى نجم نجم"),
   (0xFD99, "نجى نمي نمى يمم يمم بخي تجي تجى تخي تخى تمي تمى جمي جحى جمى سخى صحي شحي"),
   (0xFDAB, "ضحي لجي لمي يحي يجي يمي ممي قمي نحي قمح لحم عمي كمي نجح مخي لجم كمم لجم"),
   (0xFDBD, "نجح جحي حجي مجي فمي بحي كمم عجم صمم سخي نجي"),
   (0xFDF0, "صلے قلے الله اكبر محمد صلعم رسول عليه وسلم صلى"), (0xFDFC, "ریال"), (0xFE71, "ـً"),
   (0xFE77, "ـَ"), (0xFE79, "ـُ"), (0xFE7B, "ـِ"), (0xFE7D, "ـّ"), (0xFE7F, "ـْ"),
   (0xFEF5, "لآ لآ لأ لأ لإ لإ لا لا"), (0x1D15E, "𝅗𝅥 𝅘𝅥 𝅘𝅥𝅮 𝅘𝅥𝅯 𝅘𝅥𝅰 𝅘𝅥𝅱 𝅘𝅥𝅲"),
   (0x1D1BB, "𝆹𝅥 𝆺𝅥 𝆹𝅥𝅮 𝆺𝅥𝅮 𝆹𝅥𝅯 𝆺𝅥𝅯"), (0x1F101, "0, 1, 2, 3, 4, 5, 6, 7, 8, 9,"),
   (0x1F110, "(a) (b) (c) (d) (e) (f) (g) (h) (i) (j) (k) (l) (m) (n) (o) (p) (q) (r)"),
   (0x1F122, "(s) (t) (u) (v) (w) (x) (y) (z) 〔s〕 c r cd wz"), (0x1F14A, "hv mv sd ss ppv wc"),
   (0x1F16A, "mc md mr"), (0x1F190, "dj"), (0x1F200, "ほか ココ"),
   (0x1F240, "〔本〕 〔三〕 〔二〕 〔安〕 〔点〕 〔打〕 〔盗〕 〔勝〕 〔敗〕")]

structure Row where
  first : Nat
  replacements : List (List Char)

def rows : List Row :=
  (singles.map fun (first, row) => ⟨first, row.toList.map ([·])⟩) ++
    longer.map fun (first, row) => ⟨first, row.toList.splitOn ' '⟩

def Row.find? (row : Row) (c : Char) : Option (List Char) :=
  if row.first ≤ c.toNat then row.replacements[c.toNat - row.first]? else none

def replacement? (c : Char) : Option (List Char) :=
  if c.toNat < 0x80 then some [c.toLower]
  else if isRefused c then none
  else if ignored.holds c then some []
  else match shifts.findSome? (·.image? c) with
    | some d => some [d]
    | none => some ((rows.findSome? (·.find? c)).getD [c])

end Domain
end FixtureProbe
