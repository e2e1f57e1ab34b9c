/-!
# Characters with marks

Which characters a letter and a mark make together. For each mark the letters are listed, each
with the composite after it.
-/

namespace CwebHighlight.Domain

/-- The composites of a mark: letters and composites in turns. -/
structure MarkedPairs where
  mark : Nat
  pairs : String

def markedPairs : List MarkedPairs := [
  ⟨0x300, "aàeèiìnǹoòuùwẁyỳâầêềôồüǜăằēḕōṑơờưừαὰεὲηὴιὶοὸυὺωὼϊῒϋῢеѐиѝἀἂἁἃἐἒἑἓἠἢἡἣἰἲἱἳὀὂὁὃ"⟩,
  ⟨0x300, "ὐὒὑὓὠὢὡὣ"⟩,
  ⟨0x301, "aácćeégǵiíkḱlĺmḿnńoópṕrŕsśuúwẃyýzźâấåǻæǽçḉêếïḯôốõṍøǿüǘăắēḗōṓũṹơớưứαάεέηήιίοό"⟩,
  ⟨0x301, "υύωώϊΐϋΰгѓкќἀἄἁἅἐἔἑἕἠἤἡἥἰἴἱἵὀὄὁὅὐὔὑὕὠὤὡὥ"⟩,
  ⟨0x302, "aâcĉeêgĝhĥiîjĵoôsŝuûwŵyŷzẑạậẹệọộ"⟩, ⟨0x303, "aãeẽiĩnñoõuũvṽyỹâẫêễôỗăẵơỡưữ"⟩,
  ⟨0x304, "aāeēgḡiīoōuūyȳäǟæǣõȭöȫüǖǫǭȧǡȯȱαᾱιῑυῡиӣуӯḷḹṛṝ"⟩,
  ⟨0x306, "aăeĕgğiĭoŏuŭȩḝαᾰιῐυῠаӑеӗжӂийуўạặ"⟩,
  ⟨0x307, "aȧbḃcċdḋeėfḟgġhḣmṁnṅoȯpṗrṙsṡtṫwẇxẋyẏzżśṥšṧṣṩ𐗒𐗉𐗚𐗤"⟩,
  ⟨0x308, "aäeëhḧiïoötẗuüwẅxẍyÿõṏūṻιϊυϋаӓеёжӝзӟиӥоӧуӱчӵыӹэӭіїәӛөӫ"⟩,
  ⟨0x309, "aảeẻiỉoỏuủyỷâẩêểôổăẳơởưử"⟩, ⟨0x30A, "aåuůwẘyẙ"⟩, ⟨0x30B, "oőuűуӳ"⟩,
  ⟨0x30C, "aǎcčdďeěgǧhȟiǐjǰkǩlľnňoǒrřsštťuǔzžüǚʒǯ"⟩, ⟨0x30F, "aȁeȅiȉoȍrȑuȕѵѷ"⟩,
  ⟨0x311, "aȃeȇiȋoȏrȓuȗ"⟩, ⟨0x313, "αἀεἐηἠιἰοὀρῤυὐωὠ"⟩, ⟨0x314, "αἁεἑηἡιἱοὁρῥυὑωὡ"⟩,
  ⟨0x31B, "oơuư"⟩, ⟨0x323, "aạbḅdḍeẹhḥiịkḳlḷmṃnṇoọrṛsṣtṭuụvṿwẉyỵzẓơợưự"⟩, ⟨0x324, "uṳ"⟩,
  ⟨0x325, "aḁ"⟩, ⟨0x326, "sștț"⟩, ⟨0x327, "cçdḑeȩgģhḩkķlļnņrŗsştţ"⟩, ⟨0x328, "aąeęiįoǫuų"⟩,
  ⟨0x32D, "dḓeḙlḽnṋtṱuṷ"⟩, ⟨0x32E, "hḫ"⟩, ⟨0x330, "eḛiḭuṵ"⟩, ⟨0x331, "bḇdḏhẖkḵlḻnṉrṟtṯzẕ"⟩,
  ⟨0x338, "<≮=≠>≯←↚→↛↔↮⇐⇍⇒⇏⇔⇎∃∄∈∉∋∌∣∤∥∦∼≁≃≄≅≇≈≉≍≭≡≢≤≰≥≱≲≴≳≵≶≸≷≹≺⊀≻⊁≼⋠≽⋡⊂⊄⊃⊅⊆⊈⊇⊉⊑⋢⊒⋣⊢⊬⊨⊭"⟩,
  ⟨0x338, "⊩⊮⊫⊯⊲⋪⊳⋫⊴⋬⊵⋭"⟩, ⟨0x342, "αᾶηῆιῖυῦωῶϊῗϋῧἀἆἁἇἠἦἡἧἰἶἱἷὐὖὑὗὠὦὡὧ"⟩, ⟨0x653, "اآ"⟩,
  ⟨0x654, "اأوؤيئہۂےۓەۀ"⟩, ⟨0x655, "اإ"⟩, ⟨0x93C, "नऩरऱळऴ"⟩, ⟨0x9BE, "\u09C7\u09CB"⟩,
  ⟨0x9D7, "\u09C7\u09CC"⟩, ⟨0xB3E, "\u0B47\u0B4B"⟩, ⟨0xB56, "\u0B47\u0B48"⟩,
  ⟨0xB57, "\u0B47\u0B4C"⟩, ⟨0xBBE, "\u0BC6\u0BCA\u0BC7\u0BCB"⟩, ⟨0xBD7, "ஒஔ\u0BC6\u0BCC"⟩,
  ⟨0xC56, "\u0C46\u0C48"⟩, ⟨0xCC2, "\u0CC6\u0CCA"⟩,
  ⟨0xCD5, "\u0CBF\u0CC0\u0CC6\u0CC7\u0CCA\u0CCB"⟩, ⟨0xCD6, "\u0CC6\u0CC8"⟩,
  ⟨0xD3E, "\u0D46\u0D4A\u0D47\u0D4B"⟩, ⟨0xD57, "\u0D46\u0D4C"⟩,
  ⟨0xDCA, "\u0DD9\u0DDA\u0DDC\u0DDD"⟩, ⟨0xDCF, "\u0DD9\u0DDC"⟩, ⟨0xDDF, "\u0DD9\u0DDE"⟩,
  ⟨0x102E, "ဥဦ"⟩,
  ⟨0x1B35, "ᬅᬆᬇᬈᬉᬊᬋᬌᬍᬎᬑᬒ\u1B3A\u1B3B\u1B3C\u1B3D\u1B3E\u1B40\u1B3F\u1B41\u1B42\u1B43"⟩,
  ⟨0x3099, "うゔかがきぎくぐけげこごさざしじすずせぜそぞただちぢつづてでとどはばひびふぶへべほぼゝゞウヴカガキギクグケゲコゴサザシジスズセゼソゾタダチヂツヅテデトド"⟩,
  ⟨0x3099, "ハバヒビフブヘベホボワヷヰヸヱヹヲヺヽヾ"⟩, ⟨0x309A, "はぱひぴふぷへぺほぽハパヒピフプヘペホポ"⟩, ⟨0x110BA, "𑂙𑂚𑂛𑂜𑂥𑂫"⟩,
  ⟨0x11127, "𑄱𑄮𑄲𑄯"⟩, ⟨0x1133E, "𑍇𑍋"⟩, ⟨0x11357, "𑍇𑍌"⟩, ⟨0x113B8, "𑏅𑎸"⟩, ⟨0x113BB, "𑎄𑎅"⟩,
  ⟨0x113C2, "𑎋𑎎𑏅𑏂"⟩, ⟨0x113C9, "𑎂𑎃𑎐𑎑𑏅𑏉"⟩, ⟨0x114B0, "𑒹𑒼"⟩, ⟨0x114BA, "𑒹𑒻"⟩, ⟨0x114BD, "𑒹𑒾"⟩,
  ⟨0x115AF, "𑖸𑖺𑖹𑖻"⟩, ⟨0x11930, "𑤵𑤸"⟩, ⟨0x1611E, "𖄡𖄞"⟩, ⟨0x1611F, "𖄦𖄡𖄦𖄢𖄧𖄩𖄤"⟩, ⟨0x16120, "𖄨𖄡𖄨"⟩,
  ⟨0x16129, "𖄡𖄩"⟩, ⟨0x16D67, "𖵣𖵪𖵨𖵩𖵪"⟩
]

/-- The composite of a letter in a list of letters and composites. -/
def compositeIn? (letter : Char) : List Char → Option Char
  | a :: c :: rest => if a = letter then some c else compositeIn? letter rest
  | _ => none

/-- The letter of a composite in a list of letters and composites. -/
def letterIn? (composite : Char) : List Char → Option Char
  | a :: c :: rest => if c = composite then some a else letterIn? composite rest
  | _ => none

/-- The character that a letter and a mark make together. -/
def marked? (letter mark : Char) : Option Char :=
  markedPairs.findSome? fun p =>
    if p.mark = mark.toNat then compositeIn? letter p.pairs.toList else none

/-- The letter and the mark that make a character. -/
def parts? (composite : Char) : Option (Char × Char) :=
  markedPairs.findSome? fun p =>
    (letterIn? composite p.pairs.toList).map fun letter => (letter, Char.ofNat p.mark)

end CwebHighlight.Domain
