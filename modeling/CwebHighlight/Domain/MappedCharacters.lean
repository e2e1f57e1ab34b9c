import CwebHighlight.Domain.Block

/-!
# Characters of names that stand for another one

Compatibility forms, and letters whose form in names is not their lower case. A character that a
block gives back stands for itself.
-/

namespace CwebHighlight.Domain

def mappedCharacters : List Block := [
  ⟨0xA0, " "⟩, ⟨0xAA, "a"⟩, ⟨0xB2, "23´μ¶·¸1o"⟩, ⟨0x17F, "s"⟩, ⟨0x2B0, "hɦjrɹɻʁwy"⟩,
  ⟨0x2E0, "ɣlsxʕ"⟩, ⟨0x340, "\u0300\u0301\u0342\u0313\u0344ι"⟩, ⟨0x374, "ʹ"⟩, ⟨0x37E, ";"⟩,
  ⟨0x387, "·"⟩, ⟨0x3D0, "βθυύϋφπ"⟩, ⟨0x3F0, "κρσϳθε϶ϸϸσ"⟩, ⟨0xF0C, "་"⟩, ⟨0x10FC, "ნ"⟩,
  ⟨0x13A0, "ᎠᎡᎢᎣᎤᎥᎦᎧᎨᎩᎪᎫᎬᎭᎮᎯᎰᎱᎲᎳᎴᎵᎶᎷᎸᎹᎺᎻᎼᎽᎾᎿᏀᏁᏂᏃᏄᏅᏆᏇᏈᏉᏊᏋᏌᏍᏎᏏᏐᏑᏒᏓᏔᏕᏖᏗᏘᏙᏚᏛᏜᏝᏞᏟᏠᏡᏢᏣᏤᏥᏦᏧ"⟩,
  ⟨0x13E8, "ᏨᏩᏪᏫᏬᏭᏮᏯᏰᏱᏲᏳᏴᏵ"⟩, ⟨0x13F8, "ᏰᏱᏲᏳᏴᏵ"⟩, ⟨0x1C80, "вдосттъѣꙋ\u1C8A"⟩,
  ⟨0x1D2C, "aæbᴯdeǝghijklmnᴻoȣprtuwaɐɑᴂbdeəɛɜgᵎkmŋoɔᴖᴗptuᴝɯvᴥβγδφχiruvβγρφχ"⟩, ⟨0x1D78, "н"⟩,
  ⟨0x1D9B, "ɒcɕðɜfɟɡɥɨɩɪᵻʝɭᶅʟɱɰɲɳɴɵɸʂʃƫʉʊᴜʋʌzʐʑʒθ"⟩, ⟨0x1E9B, "ṡ"⟩, ⟨0x1F71, "άὲέὴήὶίὸόὺύὼώ"⟩,
  ⟨0x1FBB, "άᾼ᾽ι"⟩, ⟨0x1FC9, "έὴή"⟩, ⟨0x1FD3, "ΐ"⟩, ⟨0x1FDB, "ί"⟩, ⟨0x1FE3, "ΰ"⟩,
  ⟨0x1FEB, "ύῥ῭΅\x60"⟩, ⟨0x1FF9, "όὼώ"⟩, ⟨0x2000, "           "⟩, ⟨0x2011, "‐"⟩, ⟨0x202F, " "⟩,
  ⟨0x205F, " "⟩, ⟨0x2070, "0i"⟩, ⟨0x2074, "456789+−=()n0123456789+−=()"⟩,
  ⟨0x2090, "aeoxəhklmnpst"⟩,
  ⟨0x2102, "c℃℄℅℆ɛ℈℉ghhhhħiill℔n№℗℘pqrrr℞℟℠℡™℣z℥ω℧z℩kåbc℮eefⅎmoאבגדi℺℻πγγπ∑⅁⅂⅃⅄ddeij"⟩,
  ⟨0x2160, "iⅡⅢⅣvⅥⅦⅧⅨxⅪⅫlcdmiⅱⅲⅳvⅵⅶⅷⅸxⅺⅻlcdm"⟩, ⟨0x2329, "〈〉"⟩, ⟨0x2460, "123456789"⟩,
  ⟨0x24B6, "abcdefghijklmnopqrstuvwxyzabcdefghijklmnopqrstuvwxyz0"⟩, ⟨0x2C7C, "jv"⟩,
  ⟨0x2D6F, "ⵡ"⟩, ⟨0x2E9F, "母"⟩, ⟨0x2EF3, "龟"⟩,
  ⟨0x2F00, "一丨丶丿乙亅二亠人儿入八冂冖冫几凵刀力勹匕匚匸十卜卩厂厶又口囗土士夂夊夕大女子宀寸小尢尸屮山巛工己巾干幺广廴廾弋弓彐彡彳心戈戶手支攴文斗斤方无日"⟩,
  ⟨0x2F48, "曰月木欠止歹殳毋比毛氏气水火爪父爻爿片牙牛犬玄玉瓜瓦甘生用田疋疒癶白皮皿目矛矢石示禸禾穴立竹米糸缶网羊羽老而耒耳聿肉臣自至臼舌舛舟艮色艸虍虫血行"⟩,
  ⟨0x2F90, "衣襾見角言谷豆豕豸貝赤走足身車辛辰辵邑酉釆里金長門阜隶隹雨靑非面革韋韭音頁風飛食首香馬骨高髟鬥鬯鬲鬼魚鳥鹵鹿麥麻黃黍黑黹黽鼎鼓鼠鼻齊齒龍龜龠"⟩,
  ⟨0x3000, " 、."⟩, ⟨0x3036, "〒〷十卄卅"⟩,
  ⟨0x3131, "ᄀᄁᆪᄂᆬᆭᄃᄄᄅᆰᆱᆲᆳᆴᆵᄚᄆᄇᄈᄡᄉᄊᄋᄌᄍᄎᄏᄐᄑ하ᅢᅣᅤᅥᅦᅧᅨᅩᅪᅫᅬᅭᅮᅯᅰᅱᅲᅳᅴᅵ"⟩,
  ⟨0x3165, "ᄔᄕᇇᇈᇌᇎᇓᇗᇙᄜᇝᇟᄝᄞᄠᄢᄣᄧᄩᄫᄬᄭᄮᄯᄲᄶᅀᅇᅌᇱᇲᅗᅘᅙᆄᆅᆈᆑᆒᆔᆞᆡ"⟩, ⟨0x3192, "一二三四上中下甲乙丙丁天地人"⟩,
  ⟨0x3244, "問幼文箏"⟩,
  ⟨0x3260, "ᄀᄂᄃᄅᄆᄇᄉᄋᄌᄎᄏᄐᄑᄒ가나다라마바사아자차카타파하㉼㉽우㉿一二三四五六七八九十月火水木金土日株有社名特財祝労秘男女適優印注項休写正上中下左"⟩,
  ⟨0x32A8, "右医宗学監企資協夜"⟩, ⟨0x32D0, "アイウエオカキクケコサシスセソタチツテトナニヌネノハヒフヘホマミムメモヤユヨラリルレロワヰヱヲ"⟩,
  ⟨0xA69C, "ъь"⟩, ⟨0xA770, "ꝯ"⟩, ⟨0xA7CB, "ɤ\uA7CD\uA7CD\uA7CF\uA7CFꟑꟑꟓꟓꟕꟕꟗꟗꟙꟙ\uA7DB\uA7DBƛ"⟩,
  ⟨0xA7F1, "scfqꟶꟶꟷħœ"⟩, ⟨0xAB5C, "ꜧꬷɫꭒ"⟩, ⟨0xAB69, "ʍ"⟩,
  ⟨0xAB70, "ᎠᎡᎢᎣᎤᎥᎦᎧᎨᎩᎪᎫᎬᎭᎮᎯᎰᎱᎲᎳᎴᎵᎶᎷᎸᎹᎺᎻᎼᎽᎾᎿᏀᏁᏂᏃᏄᏅᏆᏇᏈᏉᏊᏋᏌᏍᏎᏏᏐᏑᏒᏓᏔᏕᏖᏗᏘᏙᏚᏛᏜᏝᏞᏟᏠᏡᏢᏣᏤᏥᏦᏧ"⟩,
  ⟨0xABB8, "ᏨᏩᏪᏫᏬᏭᏮᏯ"⟩,
  ⟨0xF900, "豈更車賈滑串句龜龜契金喇奈懶癩羅蘿螺裸邏樂洛烙珞落酪駱亂卵欄爛蘭鸞嵐濫藍襤拉臘蠟廊朗浪狼郎來冷勞擄櫓爐盧老蘆虜路露魯鷺碌祿綠菉錄鹿論壟弄籠聾牢磊"⟩,
  ⟨0xF948, "賂雷壘屢樓淚漏累縷陋勒肋凜凌稜綾菱陵讀拏樂諾丹寧怒率異北磻便復不泌數索參塞省葉說殺辰沈拾若掠略亮兩凉梁糧良諒量勵呂女廬旅濾礪閭驪麗黎力曆歷轢年憐"⟩,
  ⟨0xF990, "戀撚漣煉璉秊練聯輦蓮連鍊列劣咽烈裂說廉念捻殮簾獵令囹寧嶺怜玲瑩羚聆鈴零靈領例禮醴隸惡了僚寮尿料樂燎療蓼遼龍暈阮劉杻柳流溜琉留硫紐類六戮陸倫崙淪輪"⟩,
  ⟨0xF9D8, "律慄栗率隆利吏履易李梨泥理痢罹裏裡里離匿溺吝燐璘藺隣鱗麟林淋臨立笠粒狀炙識什茶刺切度拓糖宅洞暴輻行降見廓兀嗀﨎﨏塚﨑晴﨓﨔凞猪益礼神祥福靖精羽﨟"⟩,
  ⟨0xFA20, "蘒﨡諸﨣﨤逸都﨧﨨﨩飯飼館鶴郞隷侮僧免勉勤卑喝嘆器塀墨層屮悔慨憎懲敏既暑梅海渚漢煮爫琢碑社祉祈祐祖祝禍禎穀突節練縉繁署者臭艹艹著褐視謁謹賓贈辶逸"⟩,
  ⟨0xFA68, "難響頻恵𤋮舘"⟩,
  ⟨0xFA70, "並况全侀充冀勇勺喝啕喙嗢塚墳奄奔婢嬨廒廙彩徭惘慎愈憎慠懲戴揄搜摒敖晴朗望杖歹殺流滛滋漢瀞煮瞧爵犯猪瑱甆画瘝瘟益盛直睊着磌窱節类絛練缾者荒華蝹襁覆"⟩,
  ⟨0xFAB8, "視調諸請謁諾諭謹變贈輸遲醙鉶陼難靖韛響頋頻鬒龜𢡊𢡄𣏕㮝䀘䀹𥉉𥳐𧻓齃龎"⟩, ⟨0xFB20, "עאדהכלםרת+"⟩,
  ⟨0xFB50, "ٱٱٻٻٻٻپپپپڀڀڀڀٺٺٺٺٿٿٿٿٹٹٹٹڤڤڤڤڦڦڦڦڄڄڄڄڃڃڃڃچچچچڇڇڇڇڍڍڌڌڎڎڈڈژژڑڑککککگگگگڳڳ"⟩,
  ⟨0xFB98, "ڳڳڱڱڱڱںںڻڻڻڻۀۀہہہہھھھھےےۓۓ"⟩, ⟨0xFBD3, "ڭڭڭڭۇۇۆۆۈۈﯝۋۋۅۅۉۉېېېېىى"⟩, ⟨0xFBFC, "یییی"⟩,
  ⟨0xFE10, ",、"⟩, ⟨0xFE13, ":;!?〖〗"⟩, ⟨0xFE31, "—–__()\x7b\x7d〔〕【】《》〈〉「」『』﹅﹆[]﹉﹊﹋﹌___,、"⟩,
  ⟨0xFE54, ";:?!—()\x7b\x7d〔〕#&*+-<>="⟩, ⟨0xFE68, "\\$%@"⟩,
  ⟨0xFE80, "ءآآأأؤؤإإئئئئااببببةةتتتتثثثثججججححححخخخخددذذررززسسسسششششصصصصضضضضططططظظظ"⟩,
  ⟨0xFEC8, "ظععععغغغغففففققققككككللللممممننننههههووىىيييي"⟩,
  ⟨0xFF01, "!\"#$%&\x27()*+,-./0123456789:;<=>?@abcdefghijklmnopqrstuvwxyz[\\]^_\x60"⟩,
  ⟨0xFF41, "abcdefghijklmnopqrstuvwxyz\x7b|\x7d~⦅⦆.「」、・ヲァィゥェォャュョッーアイウエオカキクケコサシスセソタチツ"⟩,
  ⟨0xFF83, "テトナニヌネノハヒフヘホマミムメモヤユヨラリルレロワン\u3099\u309A"⟩,
  ⟨0xFFA1, "ᄀᄁᆪᄂᆬᆭᄃᄄᄅᆰᆱᆲᆳᆴᆵᄚᄆᄇᄈᄡᄉᄊᄋᄌᄍᄎᄏᄐᄑᄒ"⟩, ⟨0xFFC2, "ᅡᅢᅣᅤᅥᅦ"⟩, ⟨0xFFCA, "ᅧᅨᅩᅪᅫᅬ"⟩,
  ⟨0xFFD2, "ᅭᅮᅯᅰᅱᅲ"⟩, ⟨0xFFDA, "ᅳᅴᅵ"⟩, ⟨0xFFE0, "¢£¬￣¦¥₩"⟩, ⟨0xFFE8, "│←↑→↓■○"⟩,
  ⟨0x10781, "ːˑæʙɓ"⟩, ⟨0x10787, "ʣꭦʥʤɖɗᶑɘɞʩɤɢɠʛħʜɧʄʪʫɬ𝼄ꞎɮ𝼅ʎ𝼆øɶɷqɺ𝼈ɽɾʀʨʦꭧʧʈⱱ"⟩,
  ⟨0x107B2, "ʏʡʢʘǀǁǂ𝼊𝼞"⟩, ⟨0x10D50, "𐵰𐵱𐵲𐵳𐵴𐵵𐵶𐵷𐵸𐵹𐵺𐵻𐵼𐵽𐵾𐵿𐶀𐶁𐶂𐶃𐶄𐶅"⟩,
  ⟨0x16EA0, "𖺻𖺼𖺽𖺾𖺿𖻀𖻁𖻂𖻃𖻄𖻅𖻆𖻇𖻈𖻉𖻊𖻋𖻌𖻍𖻎𖻏𖻐𖻑𖻒𖻓"⟩, ⟨0x1CCD6, "abcdefghijklmnopqrstuvwxyz0123456789"⟩,
  ⟨0x1D400, "abcdefghijklmnopqrstuvwxyzabcdefghijklmnopqrstuvwxyzabcdefghijklmnopqrst"⟩,
  ⟨0x1D448, "uvwxyzabcdefg"⟩,
  ⟨0x1D456, "ijklmnopqrstuvwxyzabcdefghijklmnopqrstuvwxyzabcdefghijklmnopqrstuvwxyza"⟩,
  ⟨0x1D49E, "cd"⟩, ⟨0x1D4A2, "g"⟩, ⟨0x1D4A5, "jk"⟩, ⟨0x1D4A9, "nopq"⟩, ⟨0x1D4AE, "stuvwxyzabcd"⟩,
  ⟨0x1D4BB, "f"⟩, ⟨0x1D4BD, "hijklmn"⟩,
  ⟨0x1D4C5, "pqrstuvwxyzabcdefghijklmnopqrstuvwxyzabcdefghijklmnopqrstuvwxyzab"⟩,
  ⟨0x1D507, "defg"⟩, ⟨0x1D50D, "jklmnopq"⟩, ⟨0x1D516, "stuvwxy"⟩,
  ⟨0x1D51E, "abcdefghijklmnopqrstuvwxyzab"⟩, ⟨0x1D53B, "defg"⟩, ⟨0x1D540, "ijklm"⟩,
  ⟨0x1D546, "o"⟩, ⟨0x1D54A, "stuvwxy"⟩,
  ⟨0x1D552, "abcdefghijklmnopqrstuvwxyzabcdefghijklmnopqrstuvwxyzabcdefghijklmnopqrst"⟩,
  ⟨0x1D59A, "uvwxyzabcdefghijklmnopqrstuvwxyzabcdefghijklmnopqrstuvwxyzabcdefghijklmn"⟩,
  ⟨0x1D5E2, "opqrstuvwxyzabcdefghijklmnopqrstuvwxyzabcdefghijklmnopqrstuvwxyzabcdefgh"⟩,
  ⟨0x1D62A, "ijklmnopqrstuvwxyzabcdefghijklmnopqrstuvwxyzabcdefghijklmnopqrstuvwxyzab"⟩,
  ⟨0x1D672, "cdefghijklmnopqrstuvwxyzabcdefghijklmnopqrstuvwxyzıȷ"⟩,
  ⟨0x1D6A8, "αβγδεζηθικλμνξοπρθστυφχψω∇αβγδεζηθικλμνξοπρσστυφχψω∂εθκφρπαβγδεζηθικλμνξ"⟩,
  ⟨0x1D6F0, "οπρθστυφχψω∇αβγδεζηθικλμνξοπρσστυφχψω∂εθκφρπαβγδεζηθικλμνξοπρθστυφχψω∇αβ"⟩,
  ⟨0x1D738, "γδεζηθικλμνξοπρσστυφχψω∂εθκφρπαβγδεζηθικλμνξοπρθστυφχψω∇αβγδεζηθικλμνξοπ"⟩,
  ⟨0x1D780, "ρσστυφχψω∂εθκφρπαβγδεζηθικλμνξοπρθστυφχψω∇αβγδεζηθικλμνξοπρσστυφχψω∂εθκφ"⟩,
  ⟨0x1D7C8, "ρπϝϝ"⟩, ⟨0x1D7CE, "01234567890123456789012345678901234567890123456789"⟩,
  ⟨0x1E030, "абвгдежзиклмопрстуфхцчшыэюꚉәіјөүӏабвгдежзиклопсуфхцчшъыґіѕџҫꙑұ"⟩, ⟨0x1EE00, "ابجد"⟩,
  ⟨0x1EE05, "وزحطيكلمنسعفصقرشتثخذضظغٮںڡٯ"⟩, ⟨0x1EE21, "بج"⟩, ⟨0x1EE24, "ه"⟩, ⟨0x1EE27, "ح"⟩,
  ⟨0x1EE29, "يكلمنسعفصق"⟩, ⟨0x1EE34, "شتثخ"⟩, ⟨0x1EE39, "ض"⟩, ⟨0x1EE3B, "غ"⟩, ⟨0x1EE42, "ج"⟩,
  ⟨0x1EE47, "ح"⟩, ⟨0x1EE49, "ي"⟩, ⟨0x1EE4B, "ل"⟩, ⟨0x1EE4D, "نسع"⟩, ⟨0x1EE51, "صق"⟩,
  ⟨0x1EE54, "ش"⟩, ⟨0x1EE57, "خ"⟩, ⟨0x1EE59, "ض"⟩, ⟨0x1EE5B, "غ"⟩, ⟨0x1EE5D, "ں"⟩, ⟨0x1EE5F, "ٯ"⟩,
  ⟨0x1EE61, "بج"⟩, ⟨0x1EE64, "ه"⟩, ⟨0x1EE67, "حطيك"⟩, ⟨0x1EE6C, "منسعفصق"⟩, ⟨0x1EE74, "شتثخ"⟩,
  ⟨0x1EE79, "ضظغٮ"⟩, ⟨0x1EE7E, "ڡ"⟩, ⟨0x1EE80, "ابجدهوزحطي"⟩, ⟨0x1EE8B, "لمنسعفصقرشتثخذضظغ"⟩,
  ⟨0x1EEA1, "بجد"⟩, ⟨0x1EEA5, "وزحطي"⟩, ⟨0x1EEAB, "لمنسعفصقرشتثخذضظغ"⟩,
  ⟨0x1F12B, "cr🄭🄮🄯abcdefghijklmnopqrstuvwxyz"⟩, ⟨0x1F202, "サ"⟩,
  ⟨0x1F210, "手字双デ二多解天交映無料前後再新初終生販声吹演投捕一三遊左中右指走打禁空合満有月申割営配"⟩, ⟨0x1F250, "得可"⟩,
  ⟨0x1FBF0, "0123456789"⟩,
  ⟨0x2F800, "丽丸乁𠄢你侮侻倂偺備僧像㒞𠘺免兔兤具𠔜㒹內再𠕋冗冤仌冬况𩇟凵刃㓟刻剆割剷㔕勇勉勤勺包匆北卉卑博即卽卿卿卿𠨬灰及叟𠭣叫叱吆咞吸呈周咢哶唐啓啣善善喙"⟩,
  ⟨0x2F848, "喫喳嗂圖嘆圗噑噴切壮城埴堍型堲報墬𡓤売壷夆多夢奢𡚨𡛪姬娛娧姘婦㛮㛼嬈嬾嬾𡧈寃寘寧寳𡬘寿将当尢㞁屠屮峀岍𡷤嵃𡷦嵮嵫嵼巡巢㠯巽帨帽幩㡢𢆃㡼庰庳庶廊𪎒"⟩,
  ⟨0x2F890, "廾𢌱𢌱舁弢弢㣇𣊸𦇚形彫㣣徚忍志忹悁㤺㤜悔𢛔惇慈慌慎慌慺憎憲憤憯懞懲懶成戛扝抱拔捐𢬌挽拼捨掃揤𢯱搢揅掩㨮摩摾撝摷㩬敏敬𣀊旣書晉㬙暑㬈㫤冒冕最暜肭䏙"⟩,
  ⟨0x2F8D8, "朗望朡杞杓𣏃㭉柺枅桒梅𣑭梎栟椔㮝楂榣槪檨𣚣櫛㰘次𣢧歔㱎歲殟殺殻𣪍𡴋𣫺汎𣲼沿泍汧洖派海流浩浸涅𣴞洴港湮㴳滋滇𣻑淹潮𣽞𣾎濆瀹瀞瀛㶖灊災灷炭𠔥煅𤉣熜𤎫"⟩,
  ⟨0x2F920, "爨爵牐𤘈犀犕𤜵𤠔獺王㺬玥㺸㺸瑇瑜瑱璅瓊㼛甤𤰶甾𤲒異𢆟瘐𤾡𤾸𥁄㿼䀈直𥃳𥃲𥄙𥄳眞真真睊䀹瞋䁆䂖𥐝硎碌磌䃣𥘦祖𥚚𥛅福秫䄯穀穊穏𥥼𥪧𥪧竮䈂𥮫篆築䈧𥲀糒䊠"⟩,
  ⟨0x2F968, "糨糣紀𥾆絣䌁緇縂繅䌴𦈨𦉇䍙𦋙罺𦌾羕翺者𦓚𦔣聠𦖨聰𣍟䏕育脃䐋脾媵𦞧𦞵𣎓𣎜舁舄辞䑫芑芋芝劳花芳芽苦𦬼若茝荣莭茣莽菧著荓菊菌菜𦰶𦵫𦳕䔫蓱蓳蔖𧏊蕤𦼬䕝䕡"⟩,
  ⟨0x2F9B0, "𦾱𧃒䕫虐虜虧虩蚩蚈蜎蛢蝹蜨蝫螆䗗蟡蠁䗹衠衣𧙧裗裞䘵裺㒻𧢮𧥦䚾䛇誠諭變豕𧲨貫賁贛起𧼯𠠄跋趼跰𠣞軔輸𨗒𨗭邔郱鄑𨜮鄛鈸鋗鋘鉼鏹鐕𨯺開䦕閷𨵷䧦雃嶲霣𩅅𩈚"⟩,
  ⟨0x2F9F8, "䩮䩶韠𩐊䪲𩒖頋頋頩𩖶飢䬳餩馧駂駾䯎𩬰鬒鱀鳽䳎䳭鵧𪃎䳸𪄅𪈎𪊑麻䵖黹黾鼅鼏鼖鼻𪘀"⟩
]

end CwebHighlight.Domain
