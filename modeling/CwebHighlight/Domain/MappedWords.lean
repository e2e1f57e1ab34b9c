import CwebHighlight.Domain.Block

/-!
# Characters of names that stand for several

Ligatures, squared and enclosed words, and letters with marks that have no character of their own.
In a block the words are set apart by bars.
-/

namespace CwebHighlight.Domain

def mappedWords : List Block := [
  ⟨0xA8, " \u0308"⟩, ⟨0xAF, " \u0304"⟩, ⟨0xB4, " \u0301"⟩, ⟨0xB8, " \u0327"⟩,
  ⟨0xBC, "1⁄4|1⁄2|3⁄4"⟩, ⟨0x132, "ij|ij"⟩, ⟨0x13F, "l·|l·"⟩, ⟨0x149, "ʼn"⟩,
  ⟨0x1C4, "dž|dž|dž|lj|lj|lj|nj|nj|nj"⟩, ⟨0x1F1, "dz|dz|dz"⟩,
  ⟨0x2D8, " \u0306| \u0307| \u030A| \u0328| \u0303| \u030B"⟩, ⟨0x344, "\u0308\u0301"⟩,
  ⟨0x37A, " ι"⟩, ⟨0x384, " \u0301| \u0308\u0301"⟩, ⟨0x587, "եւ"⟩, ⟨0x675, "اٴ|وٴ|ۇٴ|يٴ"⟩,
  ⟨0x958, "क\u093C|ख\u093C|ग\u093C|ज\u093C|ड\u093C|ढ\u093C|फ\u093C|य\u093C"⟩,
  ⟨0x9DC, "ড\u09BC|ঢ\u09BC"⟩, ⟨0x9DF, "য\u09BC"⟩, ⟨0xA33, "ਲ\u0A3C"⟩, ⟨0xA36, "ਸ\u0A3C"⟩,
  ⟨0xA59, "ਖ\u0A3C|ਗ\u0A3C|ਜ\u0A3C"⟩, ⟨0xA5E, "ਫ\u0A3C"⟩, ⟨0xB5C, "ଡ\u0B3C|ଢ\u0B3C"⟩,
  ⟨0xE33, "\u0E4Dา"⟩, ⟨0xEB3, "\u0ECDາ"⟩, ⟨0xEDC, "ຫນ|ຫມ"⟩, ⟨0xF43, "ག\u0FB7"⟩,
  ⟨0xF4D, "ཌ\u0FB7"⟩, ⟨0xF52, "ད\u0FB7"⟩, ⟨0xF57, "བ\u0FB7"⟩, ⟨0xF5C, "ཛ\u0FB7"⟩,
  ⟨0xF69, "ཀ\u0FB5"⟩, ⟨0xF73, "\u0F71\u0F72"⟩,
  ⟨0xF75, "\u0F71\u0F74|\u0FB2\u0F80|\u0FB2\u0F71\u0F80|\u0FB3\u0F80"⟩,
  ⟨0xF79, "\u0FB3\u0F71\u0F80"⟩, ⟨0xF81, "\u0F71\u0F80"⟩, ⟨0xF93, "\u0F92\u0FB7"⟩,
  ⟨0xF9D, "\u0F9C\u0FB7"⟩, ⟨0xFA2, "\u0FA1\u0FB7"⟩, ⟨0xFA7, "\u0FA6\u0FB7"⟩,
  ⟨0xFAC, "\u0FAB\u0FB7"⟩, ⟨0xFB9, "\u0F90\u0FB5"⟩, ⟨0x1E9A, "aʾ"⟩,
  ⟨0x1F80, "ἀι|ἁι|ἂι|ἃι|ἄι|ἅι|ἆι|ἇι|ἀι|ἁι|ἂι|ἃι|ἄι|ἅι|ἆι|ἇι|ἠι|ἡι|ἢι|ἣι|ἤι|ἥι|ἦι|ἧι"⟩,
  ⟨0x1F98, "ἠι|ἡι|ἢι|ἣι|ἤι|ἥι|ἦι|ἧι|ὠι|ὡι|ὢι|ὣι|ὤι|ὥι|ὦι|ὧι|ὠι|ὡι|ὢι|ὣι|ὤι|ὥι|ὦι|ὧι"⟩,
  ⟨0x1FB2, "ὰι|αι|άι"⟩, ⟨0x1FB7, "ᾶι"⟩, ⟨0x1FBC, "αι| \u0313"⟩,
  ⟨0x1FBF, " \u0313| \u0342| \u0308\u0342|ὴι|ηι|ήι"⟩, ⟨0x1FC7, "ῆι"⟩,
  ⟨0x1FCC, "ηι| \u0313\u0300| \u0313\u0301| \u0313\u0342"⟩,
  ⟨0x1FDD, " \u0314\u0300| \u0314\u0301| \u0314\u0342"⟩, ⟨0x1FED, " \u0308\u0300| \u0308\u0301"⟩,
  ⟨0x1FF2, "ὼι|ωι|ώι"⟩, ⟨0x1FF7, "ῶι"⟩, ⟨0x1FFC, "ωι| \u0301| \u0314"⟩, ⟨0x2017, " \u0333"⟩,
  ⟨0x2033, "′′|′′′"⟩, ⟨0x2036, "‵‵|‵‵‵"⟩, ⟨0x203C, "!!"⟩, ⟨0x203E, " \u0305"⟩,
  ⟨0x2047, "??|?!|!?"⟩, ⟨0x2057, "′′′′"⟩, ⟨0x20A8, "rs"⟩, ⟨0x2100, "a/c|a/s"⟩, ⟨0x2103, "°c"⟩,
  ⟨0x2105, "c/o|c/u"⟩, ⟨0x2109, "°f"⟩, ⟨0x2116, "no"⟩, ⟨0x2120, "sm|tel|tm"⟩, ⟨0x213B, "fax"⟩,
  ⟨0x2150, "1⁄7|1⁄9|1⁄10|1⁄3|2⁄3|1⁄5|2⁄5|3⁄5|4⁄5|1⁄6|5⁄6|1⁄8|3⁄8|5⁄8|7⁄8|1⁄"⟩,
  ⟨0x2161, "ii|iii|iv"⟩, ⟨0x2165, "vi|vii|viii|ix"⟩, ⟨0x216A, "xi|xii"⟩, ⟨0x2171, "ii|iii|iv"⟩,
  ⟨0x2175, "vi|vii|viii|ix"⟩, ⟨0x217A, "xi|xii"⟩, ⟨0x2189, "0⁄3"⟩, ⟨0x222C, "∫∫|∫∫∫"⟩,
  ⟨0x222F, "∮∮|∮∮∮"⟩,
  ⟨0x2469, "10|11|12|13|14|15|16|17|18|19|20|(1)|(2)|(3)|(4)|(5)|(6)|(7)|(8)|(9)|(10)"⟩,
  ⟨0x247E, "(11)|(12)|(13)|(14)|(15)|(16)|(17)|(18)|(19)|(20)"⟩,
  ⟨0x249C, "(a)|(b)|(c)|(d)|(e)|(f)|(g)|(h)|(i)|(j)|(k)|(l)|(m)|(n)|(o)|(p)|(q)|(r)"⟩,
  ⟨0x24AE, "(s)|(t)|(u)|(v)|(w)|(x)|(y)|(z)"⟩, ⟨0x2A0C, "∫∫∫∫"⟩, ⟨0x2A74, "::=|==|==="⟩,
  ⟨0x2ADC, "⫝\u0338"⟩, ⟨0x309B, " \u3099| \u309A"⟩, ⟨0x309F, "より"⟩, ⟨0x30FF, "コト"⟩,
  ⟨0x3200, "(ᄀ)|(ᄂ)|(ᄃ)|(ᄅ)|(ᄆ)|(ᄇ)|(ᄉ)|(ᄋ)|(ᄌ)|(ᄎ)|(ᄏ)|(ᄐ)|(ᄑ)|(ᄒ)|(가)|(나)|(다)|(라)"⟩,
  ⟨0x3212, "(마)|(바)|(사)|(아)|(자)|(차)|(카)|(타)|(파)|(하)|(주)|(오전)|(오후)"⟩,
  ⟨0x3220, "(一)|(二)|(三)|(四)|(五)|(六)|(七)|(八)|(九)|(十)|(月)|(火)|(水)|(木)|(金)|(土)|(日)|(株)"⟩,
  ⟨0x3232, "(有)|(社)|(名)|(特)|(財)|(祝)|(労)|(代)|(呼)|(学)|(監)|(企)|(資)|(協)|(祭)|(休)|(自)|(至)"⟩,
  ⟨0x3250, "pte|21|22|23|24|25|26|27|28|29|30|31|32|33|34|35"⟩, ⟨0x327C, "참고|주의"⟩,
  ⟨0x32B1, "36|37|38|39|40|41|42|43|44|45|46|47|48|49|50|1月|2月|3月|4月|5月|6月|7月|8月|9月"⟩,
  ⟨0x32C9, "10月|11月|12月|hg|erg|ev|ltd"⟩,
  ⟨0x32FF, "令和|アパート|アルファ|アンペア|アール|イニング|インチ|ウォン|エスクード|エーカー|オンス|オーム|カイリ|カラット|カロリー|ガロン"⟩,
  ⟨0x330F, "ガンマ|ギガ|ギニー|キュリー|ギルダー|キロ|キログラム|キロメートル|キロワット|グラム|グラムトン|クルゼイロ|クローネ|ケース|コルナ"⟩,
  ⟨0x331E, "コーポ|サイクル|サンチーム|シリング|センチ|セント|ダース|デシ|ドル|トン|ナノ|ノット|ハイツ|パーセント|パーツ|バーレル|ピアストル"⟩,
  ⟨0x332F, "ピクル|ピコ|ビル|ファラッド|フィート|ブッシェル|フラン|ヘクタール|ペソ|ペニヒ|ヘルツ|ペンス|ページ|ベータ|ポイント|ボルト|ホン"⟩,
  ⟨0x3340, "ポンド|ホール|ホーン|マイクロ|マイル|マッハ|マルク|マンション|ミクロン|ミリ|ミリバール|メガ|メガトン|メートル|ヤード|ヤール|ユアン"⟩,
  ⟨0x3351, "リットル|リラ|ルピー|ルーブル|レム|レントゲン|ワット|0点|1点|2点|3点|4点|5点|6点|7点|8点|9点|10点|11点|12点"⟩,
  ⟨0x3365, "13点|14点|15点|16点|17点|18点|19点|20点|21点|22点|23点|24点|hpa|da|au|bar|ov|pc|dm"⟩,
  ⟨0x3378, "dm2|dm3|iu|平成|昭和|大正|明治|株式会社|pa|na|μa|ma|ka|kb|mb|gb|cal|kcal|pf|nf|μf|μg"⟩,
  ⟨0x338E, "mg|kg|hz|khz|mhz|ghz|thz|μl|ml|dl|kl|fm|nm|μm|mm|cm|km|mm2|cm2|m2|km2|mm3"⟩,
  ⟨0x33A4, "cm3|m3|km3|m∕s|m∕s2|pa|kpa|mpa|gpa|rad|rad∕s|rad∕s2|ps|ns|μs|ms|pv|nv|μv"⟩,
  ⟨0x33B7, "mv|kv|mv|pw|nw|μw|mw|kw|mw|kω|mω"⟩, ⟨0x33C3, "bq|cc|cd|c∕kg"⟩,
  ⟨0x33C8, "db|gy|ha|hp|in|kk|km|kt|lm|ln|log|lx|mb|mil|mol|ph"⟩,
  ⟨0x33D9, "ppm|pr|sr|sv|wb|v∕m|a∕m|1日|2日|3日|4日|5日|6日|7日|8日|9日|10日|11日|12日|13日|14日"⟩,
  ⟨0x33EE, "15日|16日|17日|18日|19日|20日|21日|22日|23日|24日|25日|26日|27日|28日|29日|30日|31日|gal"⟩,
  ⟨0xFB00, "ff|fi|fl|ffi|ffl|st|st"⟩, ⟨0xFB13, "մն|մե|մի|վն|մխ"⟩, ⟨0xFB1D, "י\u05B4"⟩,
  ⟨0xFB1F, "ײ\u05B7"⟩,
  ⟨0xFB2A, "ש\u05C1|ש\u05C2|ש\u05BC\u05C1|ש\u05BC\u05C2|א\u05B7|א\u05B8|א\u05BC"⟩,
  ⟨0xFB31, "ב\u05BC|ג\u05BC|ד\u05BC|ה\u05BC|ו\u05BC|ז\u05BC"⟩,
  ⟨0xFB38, "ט\u05BC|י\u05BC|ך\u05BC|כ\u05BC|ל\u05BC"⟩, ⟨0xFB3E, "מ\u05BC"⟩,
  ⟨0xFB40, "נ\u05BC|ס\u05BC"⟩, ⟨0xFB43, "ף\u05BC|פ\u05BC"⟩,
  ⟨0xFB46, "צ\u05BC|ק\u05BC|ר\u05BC|ש\u05BC|ת\u05BC|ו\u05B9|ב\u05BF|כ\u05BF|פ\u05BF"⟩,
  ⟨0xFB4F, "אל"⟩, ⟨0xFBDD, "ۇٴ"⟩,
  ⟨0xFBEA, "ئا|ئا|ئە|ئە|ئو|ئو|ئۇ|ئۇ|ئۆ|ئۆ|ئۈ|ئۈ|ئې|ئې|ئې|ئى|ئى|ئى"⟩,
  ⟨0xFC00, "ئج|ئح|ئم|ئى|ئي|بج|بح|بخ|بم|بى|بي|تج|تح|تخ|تم|تى|تي|ثج|ثم|ثى|ثي|جح|جم|حج"⟩,
  ⟨0xFC18, "حم|خج|خح|خم|سج|سح|سخ|سم|صح|صم|ضج|ضح|ضخ|ضم|طح|طم|ظم|عج|عم|غج|غم|فج|فح|فخ"⟩,
  ⟨0xFC30, "فم|فى|في|قح|قم|قى|قي|كا|كج|كح|كخ|كل|كم|كى|كي|لج|لح|لخ|لم|لى|لي|مج|مح|مخ"⟩,
  ⟨0xFC48, "مم|مى|مي|نج|نح|نخ|نم|نى|ني|هج|هم|هى|هي|يج|يح|يخ|يم|يى|يي|ذ\u0670|ر\u0670"⟩,
  ⟨0xFC5D, "ى\u0670| \u064C\u0651| \u064D\u0651| \u064E\u0651| \u064F\u0651"⟩,
  ⟨0xFC62, " \u0650\u0651| \u0651\u0670|ئر|ئز|ئم|ئن|ئى|ئي|بر|بز|بم|بن|بى|بي|تر|تز|تم"⟩,
  ⟨0xFC73, "تن|تى|تي|ثر|ثز|ثم|ثن|ثى|ثي|فى|في|قى|قي|كا|كل|كم|كى|كي|لم|لى|لي|ما|مم|نر"⟩,
  ⟨0xFC8B, "نز|نم|نن|نى|ني|ى\u0670|ير|يز|يم|ين|يى|يي|ئج|ئح|ئخ|ئم|ئه|بج|بح|بخ|بم|به|تج"⟩,
  ⟨0xFCA2, "تح|تخ|تم|ته|ثم|جح|جم|حج|حم|خج|خم|سج|سح|سخ|سم|صح|صخ|صم|ضج|ضح|ضخ|ضم|طح|ظم"⟩,
  ⟨0xFCBA, "عج|عم|غج|غم|فج|فح|فخ|فم|قح|قم|كج|كح|كخ|كل|كم|لج|لح|لخ|لم|له|مج|مح|مخ|مم"⟩,
  ⟨0xFCD2, "نج|نح|نخ|نم|نه|هج|هم|ه\u0670|يج|يح|يخ|يم|يه|ئم|ئه|بم|به|تم|ته|ثم|ثه|سم|سه"⟩,
  ⟨0xFCE9, "شم|شه|كل|كم|لم|نم|نه|يم|يه|ـ\u064E\u0651|ـ\u064F\u0651|ـ\u0650\u0651|طى"⟩,
  ⟨0xFCF6, "طي|عى|عي|غى|غي|سى|سي|شى|شي|حى|حي|جى|جي|خى|خي|صى|صي|ضى|ضي|شج|شح|شخ|شم|شر"⟩,
  ⟨0xFD0E, "سر|صر|ضر|طى|طي|عى|عي|غى|غي|سى|سي|شى|شي|حى|حي|جى|جي|خى|خي|صى|صي|ضى|ضي|شج"⟩,
  ⟨0xFD26, "شح|شخ|شم|شر|سر|صر|ضر|شج|شح|شخ|شم|سه|شه|طم|سج|سح|سخ|شج|شح|شخ|طم|ظم|ا\u064B"⟩,
  ⟨0xFD3D, "ا\u064B"⟩,
  ⟨0xFD50, "تجم|تحج|تحج|تحم|تخم|تمج|تمح|تمخ|جمح|جمح|حمي|حمى|سحج|سجح|سجى|سمح|سمح|سمج"⟩,
  ⟨0xFD62, "سمم|سمم|صحح|صحح|صمم|شحم|شحم|شجي|شمخ|شمخ|شمم|شمم|ضحى|ضخم|ضخم|طمح|طمح|طمم"⟩,
  ⟨0xFD74, "طمي|عجم|عمم|عمم|عمى|غمم|غمي|غمى|فخم|فخم|قمح|قمم|لحم|لحي|لحى|لجج|لجج|لخم"⟩,
  ⟨0xFD86, "لخم|لمح|لمح|محج|محم|محي|مجح|مجم|مخج|مخم"⟩,
  ⟨0xFD92, "مجخ|همج|همم|نحم|نحى|نجم|نجم|نجى|نمي|نمى|يمم|يمم|بخي|تجي|تجى|تخي|تخى|تمي"⟩,
  ⟨0xFDA4, "تمى|جمي|جحى|جمى|سخى|صحي|شحي|ضحي|لجي|لمي|يحي|يجي|يمي|ممي|قمي|نحي|قمح|لحم"⟩,
  ⟨0xFDB6, "عمي|كمي|نجح|مخي|لجم|كمم|لجم|نجح|جحي|حجي|مجي|فمي|بحي|كمم|عجم|صمم|سخي|نجي"⟩,
  ⟨0xFDF0, "صلے|قلے|الله|اكبر|محمد|صلعم|رسول|عليه|وسلم|صلى|صلى الله عليه وسلم"⟩,
  ⟨0xFDFB, "جل جلاله|ریال"⟩, ⟨0xFE49, " \u0305| \u0305| \u0305| \u0305"⟩,
  ⟨0xFE70, " \u064B|ـ\u064B| \u064C"⟩, ⟨0xFE74, " \u064D"⟩,
  ⟨0xFE76, " \u064E|ـ\u064E| \u064F|ـ\u064F| \u0650|ـ\u0650| \u0651|ـ\u0651| \u0652"⟩,
  ⟨0xFE7F, "ـ\u0652"⟩, ⟨0xFEF5, "لآ|لآ|لأ|لأ|لإ|لإ|لا|لا"⟩, ⟨0xFFE3, " \u0304"⟩,
  ⟨0x1D15E, "𝅗𝅥|𝅘𝅥|𝅘𝅥𝅮|𝅘𝅥𝅯|𝅘𝅥𝅰|𝅘𝅥𝅱|𝅘𝅥𝅲"⟩, ⟨0x1D1BB, "𝆹𝅥|𝆺𝅥|𝆹𝅥𝅮|𝆺𝅥𝅮|𝆹𝅥𝅯|𝆺𝅥𝅯"⟩,
  ⟨0x1F101, "0,|1,|2,|3,|4,|5,|6,|7,|8,|9,"⟩,
  ⟨0x1F110, "(a)|(b)|(c)|(d)|(e)|(f)|(g)|(h)|(i)|(j)|(k)|(l)|(m)|(n)|(o)|(p)|(q)|(r)"⟩,
  ⟨0x1F122, "(s)|(t)|(u)|(v)|(w)|(x)|(y)|(z)|〔s〕"⟩, ⟨0x1F12D, "cd|wz"⟩,
  ⟨0x1F14A, "hv|mv|sd|ss|ppv|wc"⟩, ⟨0x1F16A, "mc|md|mr"⟩, ⟨0x1F190, "dj"⟩, ⟨0x1F200, "ほか|ココ"⟩,
  ⟨0x1F240, "〔本〕|〔三〕|〔二〕|〔安〕|〔点〕|〔打〕|〔盗〕|〔勝〕|〔敗〕"⟩
]

end CwebHighlight.Domain
