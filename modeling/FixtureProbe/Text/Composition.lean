import FixtureProbe.Text.CombiningClass

/-!
# Composed characters

A letter with its marks can be written as one character or as several. Composed text takes one
character wherever there is one, so that texts that look the same are the same.
-/

namespace FixtureProbe
namespace Composition

/-!
# Composites
-/

/-- For each mark, characters and what they become under it, in turn. -/
def table : List (Nat × String) :=
  [(0x300, "AÀEÈIÌOÒUÙaàeèiìoòuùÜǛüǜNǸnǹЕЀИЍеѐиѝĒḔēḕŌṐōṑWẀwẁÂẦâầĂẰăằÊỀêềÔỒôồƠỜơờƯỪưừYỲyỳἀἂἁἃἈἊ"),
   (0x300, "ἉἋἐἒἑἓἘἚἙἛἠἢἡἣἨἪἩἫἰἲἱἳἸἺἹἻὀὂὁὃὈὊὉὋὐὒὑὓὙὛὠὢὡὣὨὪὩὫαὰεὲηὴιὶοὸυὺωὼΑᾺΕῈΗῊ᾿῍ϊῒΙῚ῾῝ϋῢΥῪ¨῭"),
   (0x300, "ΟῸΩῺ"),
   (0x301, "AÁEÉIÍOÓUÚYÝaáeéiíoóuúyýCĆcćLĹlĺNŃnńRŔrŕSŚsśZŹzźÜǗüǘGǴgǵÅǺåǻÆǼæǽØǾøǿ¨΅ΑΆΕΈΗΉΙΊΟΌΥΎ"),
   (0x301, "ΩΏϊΐαάεέηήιίϋΰοόυύωώϒϓГЃКЌгѓкќÇḈçḉĒḖēḗÏḮïḯKḰkḱMḾmḿÕṌõṍŌṒōṓPṔpṕŨṸũṹWẂwẃÂẤâấĂẮăắÊẾêế"),
   (0x301, "ÔỐôốƠỚơớƯỨưứἀἄἁἅἈἌἉἍἐἔἑἕἘἜἙἝἠἤἡἥἨἬἩἭἰἴἱἵἸἼἹἽὀὄὁὅὈὌὉὍὐὔὑὕὙὝὠὤὡὥὨὬὩὭ᾿῎῾῞"),
   (0x302, "AÂEÊIÎOÔUÛaâeêiîoôuûCĈcĉGĜgĝHĤhĥJĴjĵSŜsŝWŴwŵYŶyŷZẐzẑẠẬạậẸỆẹệỌỘọộ"),
   (0x303, "AÃNÑOÕaãnñoõIĨiĩUŨuũVṼvṽÂẪâẫĂẴăẵEẼeẽÊỄêễÔỖôỗƠỠơỡƯỮưữYỸyỹ"),
   (0x304, "AĀaāEĒeēIĪiīOŌoōUŪuūÜǕüǖÄǞäǟȦǠȧǡÆǢæǣǪǬǫǭÖȪöȫÕȬõȭȮȰȯȱYȲyȳИӢиӣУӮуӯGḠgḡḶḸḷḹṚṜṛṝαᾱΑᾹιῑ"),
   (0x304, "ΙῙυῡΥῩ"), (0x306, "AĂaăEĔeĕGĞgğIĬiĭOŎoŏUŬuŭУЎИЙийуўЖӁжӂАӐаӑЕӖеӗȨḜȩḝẠẶạặαᾰΑᾸιῐΙῘυῠΥῨ"),
   (0x307, "CĊcċEĖeėGĠgġIİZŻzżAȦaȧOȮoȯBḂbḃDḊdḋFḞfḟHḢhḣMṀmṁNṄnṅPṖpṗRṘrṙSṠsṡŚṤśṥŠṦšṧṢṨṣṩTṪtṫWẆwẇ"),
   (0x307, "XẊxẋYẎyẏſẛ𐗒𐗉𐗚𐗤"),
   (0x308, "AÄEËIÏOÖUÜaäeëiïoöuüyÿYŸΙΪΥΫιϊυϋϒϔЕЁІЇеёіїАӒаӓӘӚәӛЖӜжӝЗӞзӟИӤиӥОӦоӧӨӪөӫЭӬэӭУӰуӱЧӴчӵ"),
   (0x308, "ЫӸыӹHḦhḧÕṎõṏŪṺūṻWẄwẅXẌxẍtẗ"),
   (0x309, "AẢaảÂẨâẩĂẲăẳEẺeẻÊỂêểIỈiỉOỎoỏÔỔôổƠỞơởUỦuủƯỬưửYỶyỷ"), (0x30A, "AÅaåUŮuůwẘyẙ"),
   (0x30B, "OŐoőUŰuűУӲуӳ"),
   (0x30C, "CČcčDĎdďEĚeěLĽlľNŇnňRŘrřSŠsšTŤtťZŽzžAǍaǎIǏiǐOǑoǒUǓuǔÜǙüǚGǦgǧKǨkǩƷǮʒǯjǰHȞhȟ"),
   (0x30F, "AȀaȁEȄeȅIȈiȉOȌoȍRȐrȑUȔuȕѴѶѵѷ"), (0x311, "AȂaȃEȆeȇIȊiȋOȎoȏRȒrȓUȖuȗ"),
   (0x313, "αἀΑἈεἐΕἘηἠΗἨιἰΙἸοὀΟὈυὐωὠΩὨρῤ"), (0x314, "αἁΑἉεἑΕἙηἡΗἩιἱΙἹοὁΟὉυὑΥὙωὡΩὩρῥΡῬ"),
   (0x31B, "OƠoơUƯuư"),
   (0x323, "BḄbḅDḌdḍHḤhḥKḲkḳLḶlḷMṂmṃNṆnṇRṚrṛSṢsṣTṬtṭVṾvṿWẈwẉZẒzẓAẠaạEẸeẹIỊiịOỌoọƠỢơợUỤuụƯỰưựYỴ"),
   (0x323, "yỵ"), (0x324, "UṲuṳ"), (0x325, "AḀaḁ"), (0x326, "SȘsșTȚtț"),
   (0x327, "CÇcçGĢgģKĶkķLĻlļNŅnņRŖrŗSŞsşTŢtţEȨeȩDḐdḑHḨhḩ"), (0x328, "AĄaąEĘeęIĮiįUŲuųOǪoǫ"),
   (0x32D, "DḒdḓEḘeḙLḼlḽNṊnṋTṰtṱUṶuṷ"), (0x32E, "HḪhḫ"), (0x330, "EḚeḛIḬiḭUṴuṵ"),
   (0x331, "BḆbḇDḎdḏKḴkḵLḺlḻNṈnṉRṞrṟTṮtṯZẔzẕhẖ"),
   (0x338, "←↚→↛↔↮⇐⇍⇔⇎⇒⇏∃∄∈∉∋∌∣∤∥∦∼≁≃≄≅≇≈≉=≠≡≢≍≭<≮>≯≤≰≥≱≲≴≳≵≶≸≷≹≺⊀≻⊁⊂⊄⊃⊅⊆⊈⊇⊉⊢⊬⊨⊭⊩⊮⊫⊯≼⋠≽⋡⊑⋢⊒⋣⊲⋪"),
   (0x338, "⊳⋫⊴⋬⊵⋭"), (0x342, "ἀἆἁἇἈἎἉἏἠἦἡἧἨἮἩἯἰἶἱἷἸἾἹἿὐὖὑὗὙὟὠὦὡὧὨὮὩὯαᾶ¨῁ηῆ᾿῏ιῖϊῗ῾῟υῦϋῧωῶ"),
   (0x345, "ἀᾀἁᾁἂᾂἃᾃἄᾄἅᾅἆᾆἇᾇἈᾈἉᾉἊᾊἋᾋἌᾌἍᾍἎᾎἏᾏἠᾐἡᾑἢᾒἣᾓἤᾔἥᾕἦᾖἧᾗἨᾘἩᾙἪᾚἫᾛἬᾜἭᾝἮᾞἯᾟὠᾠὡᾡὢᾢὣᾣὤᾤὥᾥὦᾦὧᾧὨᾨ"),
   (0x345, "ὩᾩὪᾪὫᾫὬᾬὭᾭὮᾮὯᾯὰᾲαᾳάᾴᾶᾷΑᾼὴῂηῃήῄῆῇΗῌὼῲωῳώῴῶῷΩῼ"), (0x653, "اآ"), (0x654, "اأوؤيئەۀہۂےۓ"),
   (0x655, "اإ"), (0x93C, "नऩरऱळऴ"), (0x9BE, "েো"), (0x9D7, "েৌ"), (0xB3E, "େୋ"), (0xB56, "େୈ"),
   (0xB57, "େୌ"), (0xBBE, "ெொேோ"), (0xBD7, "ஒஔெௌ"), (0xC56, "ెై"), (0xCC2, "ೆೊ"), (0xCD5, "ಿೀೆೇೊೋ"),
   (0xCD6, "ೆೈ"), (0xD3E, "െൊേോ"), (0xD57, "െൌ"), (0xDCA, "ෙේොෝ"), (0xDCF, "ෙො"), (0xDDF, "ෙෞ"),
   (0x102E, "ဥဦ"), (0x1B35, "ᬅᬆᬇᬈᬉᬊᬋᬌᬍᬎᬑᬒᬺᬻᬼᬽᬾᭀᬿᭁᭂᭃ"),
   (0x3099, "かがきぎくぐけげこごさざしじすずせぜそぞただちぢつづてでとどはばひびふぶへべほぼうゔゝゞカガキギクグケゲコゴサザシジスズセゼソゾタダチヂツヅテデトドハバヒビフブヘベ"),
   (0x3099, "ホボウヴワヷヰヸヱヹヲヺヽヾ"), (0x309A, "はぱひぴふぷへぺほぽハパヒピフプヘペホポ"), (0x110BA, "𑂙𑂚𑂛𑂜𑂥𑂫"),
   (0x11127, "𑄱𑄮𑄲𑄯"), (0x1133E, "𑍇𑍋"), (0x11357, "𑍇𑍌"), (0x113B8, "𑏅𑎸"), (0x113BB, "𑎄𑎅"),
   (0x113C2, "𑎋𑎎𑏅𑏂"), (0x113C9, "𑎂𑎃𑎐𑎑𑏅𑏉"), (0x114B0, "𑒹𑒼"), (0x114BA, "𑒹𑒻"), (0x114BD, "𑒹𑒾"),
   (0x115AF, "𑖸𑖺𑖹𑖻"), (0x11930, "𑤵𑤸"), (0x1611E, "𖄡𖄞"), (0x1611F, "𖄦𖄩𖄤𖄡𖄦𖄢𖄧"), (0x16120, "𖄨𖄡𖄨"),
   (0x16129, "𖄡𖄩"), (0x16D67, "𖵨𖵧𖵣𖵩𖵩𖵪")]

def pairs : List Char -> List (Char × Char)
  | a :: b :: rest => (a, b) :: pairs rest
  | _ => []

structure Composite where
  whole : Char
  first : Char
  second : Char
  deriving DecidableEq

def composites : List Composite :=
  table.flatMap fun (mark, row) =>
    (pairs row.toList).map fun (first, whole) => ⟨whole, first, Char.ofNat mark⟩

/-!
# Korean syllables

A syllable has a first consonant, a vowel and perhaps a last consonant, and the syllables are
numbered in the order of these.
-/

def within (first length : Nat) (c : Char) : Option Nat :=
  if first ≤ c.toNat ∧ c.toNat < first + length then some (c.toNat - first) else none

def syllable? : Char -> Option Nat := within 0xAC00 11172

def leading? : Char -> Option Nat := within 0x1100 19

def vowel? : Char -> Option Nat := within 0x1161 21

/-- The number of a last consonant; zero stands for none. -/
def trailing? (c : Char) : Option Nat :=
  (within 0x11A8 27 c).map (· + 1)

/-- The syllable of two parts, the first of which may be an open syllable. -/
def syllableOf? (first second : Char) : Option Char :=
  match leading? first, vowel? second, syllable? first, trailing? second with
  | some leading, some vowel, _, _ => some (Char.ofNat (0xAC00 + (leading * 21 + vowel) * 28))
  | _, _, some syllable, some trailing =>
      if syllable % 28 = 0 then some (Char.ofNat (0xAC00 + syllable + trailing)) else none
  | _, _, _, _ => none

def syllableParts (syllable : Nat) : List Char :=
  [Char.ofNat (0x1100 + syllable / 588), Char.ofNat (0x1161 + syllable % 588 / 28)] ++
    (if syllable % 28 = 0 then [] else [Char.ofNat (0x11A7 + syllable % 28)])

/-!
# Taking apart
-/

def parts (c : Char) : (depth : Nat) -> List Char
  | 0 => [c]
  | depth + 1 =>
      match syllable? c with
      | some n => syllableParts n
      | none =>
          match composites.find? (·.whole = c) with
          | some composite => parts composite.first depth ++ [composite.second]
          | none => [c]

/-- A letter carries at most three marks in one character. -/
def deepest : Nat := 3

/-- Adds a character to a text, whose last character comes first, in its place among marks. -/
def place (c : Char) : List Char -> List Char
  | [] => [c]
  | d :: rest =>
      if 0 < combiningClass c ∧ combiningClass c < combiningClass d then d :: place c rest
      else c :: d :: rest

def decomposed (text : List Char) : List Char :=
  ((text.flatMap (parts · deepest)).foldl (fun before c => place c before) []).reverse

/-!
# Putting together
-/

def compose? (first second : Char) : Option Char :=
  match syllableOf? first second with
  | some syllable => some syllable
  | none =>
      (composites.find? fun composite => composite.first = first ∧ composite.second = second).map
        (·.whole)

structure Composer where
  /-- What is done, the last character first. -/
  done : List Char
  /-- The character to which marks may be added. -/
  base : Option Char
  /-- The marks that the base has not taken, the last one first. -/
  marks : List Char

namespace Composer

def written (s : Composer) : List Char :=
  s.marks ++ s.base.toList ++ s.done

/-- Whether the base is out of reach for a character. -/
def isBlocked (s : Composer) (c : Char) : Bool :=
  s.marks.head?.any fun mark => combiningClass c ≤ combiningClass mark

def step (s : Composer) (c : Char) : Composer :=
  match s.base.bind fun base => if s.isBlocked c then none else compose? base c with
  | some whole => { s with base := some whole }
  | none =>
      if combiningClass c = 0 then ⟨s.written, some c, []⟩ else { s with marks := c :: s.marks }

end Composer

def composed (text : List Char) : List Char :=
  ((decomposed text).foldl Composer.step ⟨[], none, []⟩).written.reverse

end Composition
end FixtureProbe
