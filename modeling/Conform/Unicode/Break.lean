import Conform.Unicode.Runs
/-!
# Breaks

Rules on where a text may be broken into graphemes, words and sentences sort the characters by the
part that they play. The parts of Unicode 16 are recorded; most characters play none in particular.
-/

namespace Conform.Unicode

/-- What a text is broken into. -/
inductive Break where
  | grapheme | word | sentence
deriving DecidableEq, Repr

namespace Break

/-- The codes and names of the parts that characters can play. -/
def names : Break → List (String × String)
  | .grapheme =>
    [("Cn", "Control"), ("Cr", "CR"), ("Ex", "Extend"), ("L", "L"), ("Lf", "LF"), ("Lv", "LV"),
      ("Lvt", "LVT"), ("Pp", "Prepend"), ("Ri", "Regional_Indicator"), ("Sm", "SpacingMark"),
      ("T", "T"), ("V", "V"), ("Zwj", "ZWJ")]
  | .word =>
    [("Cr", "CR"), ("Dq", "Double_Quote"), ("Ex", "ExtendNumLet"), ("Extend", "Extend"),
      ("Fo", "Format"), ("Hl", "Hebrew_Letter"), ("Ka", "Katakana"), ("Le", "ALetter"),
      ("Lf", "LF"), ("Mb", "MidNumLet"), ("Ml", "MidLetter"), ("Mn", "MidNum"), ("Nl", "Newline"),
      ("Nu", "Numeric"), ("Ri", "Regional_Indicator"), ("Sq", "Single_Quote"),
      ("Wsegspace", "WSegSpace"), ("Zwj", "ZWJ")]
  | .sentence =>
    [("At", "ATerm"), ("Cl", "Close"), ("Cr", "CR"), ("Ex", "Extend"), ("Fo", "Format"),
      ("Le", "OLetter"), ("Lf", "LF"), ("Lo", "Lower"), ("Nu", "Numeric"), ("Sc", "SContinue"),
      ("Se", "Sep"), ("Sp", "Sp"), ("St", "STerm"), ("Up", "Upper")]

/-- The codes of the parts of all code points; `Xx` stands for none. -/
def table : Break → Runs String
  | .grapheme => .ofLines id
    ["Cn10LfCn2CrCn18Xx95Cn33Xx13CnXx594Ex112Xx275Ex7Xx263Ex45XxExXxEx2XxEx2XxExXx56Pp6Xx10Ex11",
      "XxCnXx46Ex21Xx16ExXx101Ex7PpXxEx6Xx2Ex2XxEx4Xx33PpXxExXx30Ex27Xx91Ex11Xx58Ex9Xx9ExXx24Ex4",
      "XxEx9XxEx3XxEx5Xx43Ex3Xx52Pp2Xx5Ex9Xx42Ex24PpEx32SmXx54ExSmExXxSm3Ex8Sm4ExSm2XxEx7Xx10Ex2",
      "Xx29ExSm2Xx56ExXxExSm2Ex4Xx2Sm2Xx2Sm2ExXx9ExXx10Ex2Xx26ExXx2Ex2SmXx56ExXxSm3Ex2Xx4Ex2Xx2",
      "Ex3Xx3ExXx30Ex2Xx3ExXx11Ex2SmXx56ExXxSm3Ex5XxEx2SmXxSm2ExXx20Ex2Xx22Ex6XxExSm2Xx56ExXxEx2",
      "SmEx4Xx2Sm2Xx2Sm2ExXx7Ex3Xx10Ex2Xx30ExXx59ExSmExSm2Xx3Sm3XxSm3ExXx9ExXx40ExSm3ExXx55ExXx",
      "Ex3Sm4XxEx3XxEx4Xx7Ex2Xx11Ex2Xx29ExSm2Xx56ExXxSmEx2SmExSm2XxEx3XxEx4Xx7Ex2Xx11Ex2Xx15Sm",
      "Xx12Ex2Sm2Xx55Ex2XxExSm2Ex4XxSm3XxSm3ExPpXx8ExXx10Ex2Xx29ExSm2Xx70ExXx4ExSm2Ex3XxExXxSm7Ex",
      "Xx18Sm2Xx61ExXxSmEx7Xx12Ex8Xx98ExXxSmEx9Xx11Ex7Xx73Ex2Xx27ExXxExXxExXx4Sm2Xx49Ex14SmEx5Xx",
      "Ex2Xx5Ex11XxEx36Xx9ExXx102Ex4SmEx6XxEx2Sm2Ex2Xx23Sm2Ex2Xx4Ex3Xx16Ex4Xx13ExXxSmEx2Xx6ExXx15",
      "ExXx98L96V72T88Xx349Ex3Xx946Ex4Xx28Ex3Xx29Ex2Xx30Ex2Xx64Ex2SmEx7Sm8ExSm2Ex11Xx9ExXx45Ex3Cn",
      "ExXx117Ex2Xx34ExXx118Ex3Sm4Ex2Sm3Xx4Sm2ExSm6Ex3Xx219Ex2Sm2ExXx57SmExSmEx7XxExXxExXx2Ex8Sm6",
      "Ex10Xx2ExXx48Ex31Xx49Ex4SmXx47Ex10Sm4Ex3Xx38Ex9Xx12Ex2SmXx30SmEx4Sm2Ex6Xx56ExSmEx2Sm3ExSm",
      "Ex5Xx48Sm8Ex8Sm2Ex2Xx152Ex3XxEx13SmEx7Xx4ExXx6ExXx2SmEx2Xx198Ex64Xx523CnExZwjCn2Xx24Cn7",
      "Xx49Cn16Xx96Ex33Xx3070Ex3Xx141ExXx96Ex32Xx554Ex6Xx105Ex2Xx30164Ex4XxEx10Xx32Ex2Xx80Ex2",
      "Xx272ExXx3ExXx4ExXx23Sm2Ex2SmXx4ExXx83Sm2Xx50Sm16Ex2Xx26Ex18Xx13ExXx38Ex8Xx25Ex11SmExXx12",
      "L29Xx3Ex3SmXx47ExSm2Ex4Sm2Ex2Sm2ExXx36ExXx67Ex6Sm2Ex2Sm2Ex2Xx12ExXx8ExSmXx46ExXx51ExXxEx3",
      "Xx2Ex2Xx5Ex2XxExXx41SmEx2Sm2Xx5SmExXx236Sm2ExSm2ExSm2XxSmExXx18LvLvt27LvLvt27LvLvt27Lv",
      "Lvt27LvLvt27LvLvt27LvLvt27LvLvt27LvLvt27LvLvt27LvLvt27LvLvt27LvLvt27LvLvt27LvLvt27LvLvt27",
      "LvLvt27LvLvt27LvLvt27LvLvt27LvLvt27LvLvt27LvLvt27LvLvt27LvLvt27LvLvt27LvLvt27LvLvt27Lv",
      "Lvt27LvLvt27LvLvt27LvLvt27LvLvt27LvLvt27LvLvt27LvLvt27LvLvt27LvLvt27LvLvt27LvLvt27LvLvt27",
      "LvLvt27LvLvt27LvLvt27LvLvt27LvLvt27LvLvt27LvLvt27LvLvt27LvLvt27LvLvt27LvLvt27LvLvt27Lv",
      "Lvt27LvLvt27LvLvt27LvLvt27LvLvt27LvLvt27LvLvt27LvLvt27LvLvt27LvLvt27LvLvt27LvLvt27LvLvt27",
      "LvLvt27LvLvt27LvLvt27LvLvt27LvLvt27LvLvt27LvLvt27LvLvt27LvLvt27LvLvt27LvLvt27LvLvt27Lv",
      "Lvt27LvLvt27LvLvt27LvLvt27LvLvt27LvLvt27LvLvt27LvLvt27LvLvt27LvLvt27LvLvt27LvLvt27LvLvt27",
      "LvLvt27LvLvt27LvLvt27LvLvt27LvLvt27LvLvt27LvLvt27LvLvt27LvLvt27LvLvt27LvLvt27LvLvt27Lv",
      "Lvt27LvLvt27LvLvt27LvLvt27LvLvt27LvLvt27LvLvt27LvLvt27LvLvt27LvLvt27LvLvt27LvLvt27LvLvt27",
      "LvLvt27LvLvt27LvLvt27LvLvt27LvLvt27LvLvt27LvLvt27LvLvt27LvLvt27LvLvt27LvLvt27LvLvt27Lv",
      "Lvt27LvLvt27LvLvt27LvLvt27LvLvt27LvLvt27LvLvt27LvLvt27LvLvt27LvLvt27LvLvt27LvLvt27LvLvt27",
      "LvLvt27LvLvt27LvLvt27LvLvt27LvLvt27LvLvt27LvLvt27LvLvt27LvLvt27LvLvt27LvLvt27LvLvt27Lv",
      "Lvt27LvLvt27LvLvt27LvLvt27LvLvt27LvLvt27LvLvt27LvLvt27LvLvt27LvLvt27LvLvt27LvLvt27LvLvt27",
      "LvLvt27LvLvt27LvLvt27LvLvt27LvLvt27LvLvt27LvLvt27LvLvt27LvLvt27LvLvt27LvLvt27LvLvt27Lv",
      "Lvt27LvLvt27LvLvt27LvLvt27LvLvt27LvLvt27LvLvt27LvLvt27LvLvt27LvLvt27LvLvt27LvLvt27LvLvt27",
      "LvLvt27LvLvt27LvLvt27LvLvt27LvLvt27LvLvt27LvLvt27LvLvt27LvLvt27LvLvt27LvLvt27LvLvt27Lv",
      "Lvt27LvLvt27LvLvt27LvLvt27LvLvt27LvLvt27LvLvt27LvLvt27LvLvt27LvLvt27LvLvt27LvLvt27LvLvt27",
      "LvLvt27LvLvt27LvLvt27LvLvt27LvLvt27LvLvt27LvLvt27LvLvt27LvLvt27LvLvt27LvLvt27LvLvt27Lv",
      "Lvt27LvLvt27LvLvt27LvLvt27LvLvt27LvLvt27LvLvt27LvLvt27LvLvt27LvLvt27LvLvt27LvLvt27LvLvt27",
      "LvLvt27LvLvt27LvLvt27LvLvt27LvLvt27LvLvt27LvLvt27LvLvt27LvLvt27LvLvt27LvLvt27LvLvt27Lv",
      "Lvt27LvLvt27LvLvt27LvLvt27LvLvt27LvLvt27LvLvt27LvLvt27LvLvt27LvLvt27LvLvt27LvLvt27LvLvt27",
      "LvLvt27LvLvt27LvLvt27LvLvt27LvLvt27LvLvt27LvLvt27LvLvt27LvLvt27LvLvt27LvLvt27LvLvt27Lv",
      "Lvt27LvLvt27LvLvt27LvLvt27LvLvt27LvLvt27LvLvt27LvLvt27LvLvt27LvLvt27LvLvt27LvLvt27LvLvt27",
      "LvLvt27LvLvt27LvLvt27LvLvt27LvLvt27LvLvt27LvLvt27LvLvt27LvLvt27LvLvt27LvLvt27LvLvt27Lv",
      "Lvt27LvLvt27LvLvt27LvLvt27LvLvt27LvLvt27LvLvt27LvLvt27LvLvt27LvLvt27LvLvt27LvLvt27LvLvt27",
      "LvLvt27LvLvt27LvLvt27LvLvt27LvLvt27LvLvt27LvLvt27LvLvt27LvLvt27LvLvt27LvLvt27LvLvt27Lv",
      "Lvt27LvLvt27LvLvt27LvLvt27LvLvt27LvLvt27LvLvt27LvLvt27LvLvt27LvLvt27LvLvt27LvLvt27LvLvt27",
      "LvLvt27LvLvt27LvLvt27LvLvt27LvLvt27LvLvt27LvLvt27LvLvt27LvLvt27LvLvt27LvLvt27LvLvt27Lv",
      "Lvt27LvLvt27LvLvt27LvLvt27LvLvt27LvLvt27LvLvt27LvLvt27LvLvt27LvLvt27LvLvt27LvLvt27LvLvt27",
      "LvLvt27LvLvt27LvLvt27LvLvt27LvLvt27LvLvt27LvLvt27LvLvt27LvLvt27LvLvt27LvLvt27LvLvt27Lv",
      "Lvt27LvLvt27LvLvt27LvLvt27LvLvt27LvLvt27LvLvt27LvLvt27LvLvt27LvLvt27LvLvt27LvLvt27LvLvt27",
      "LvLvt27LvLvt27LvLvt27LvLvt27LvLvt27LvLvt27LvLvt27LvLvt27Xx12V23Xx4T49Xx8994ExXx737Ex16Xx16",
      "Ex16Xx207CnXx158Ex2Xx80Cn12Xx513ExXx226ExXx149Ex5Xx1670Ex3XxEx2Xx5Ex4Xx40Ex3Xx4ExXx165Ex2",
      "Xx573Ex4Xx65Ex5Xx317Ex2Xx79Ex4Xx70Ex11Xx49Ex4Xx122SmExSmXx53Ex15Xx41ExXx2Ex2Xx10Ex3SmXx45",
      "Sm3Ex4Sm2Ex2Xx2PpXx4ExXx10PpXx50Ex3Xx36Ex5SmEx8Xx16Sm2Xx44ExXx12Ex2SmXx48Sm3Ex9SmExXxPp2",
      "Xx5Ex4XxSmExXx92Sm3Ex3Sm2Ex4Xx6ExXx2ExXx157ExSm3Ex8Xx21Ex2Sm2Xx55Ex2XxExSmExSm4Xx2Sm2Xx2",
      "Sm2ExXx9ExXx10Sm2Xx2Ex7Xx3Ex5Xx67ExSm2Ex6XxExXx2ExXxEx3SmXxSm2Ex3PpExXx14Ex2Xx82Sm3Ex8Sm2",
      "Ex3SmExXx23ExXx81ExSm2Ex6SmExSm2ExSmEx2SmEx2Xx235ExSm2Ex4Xx2Sm4Ex2SmEx2Xx27Ex2Xx82Sm3Ex8",
      "Sm2ExSmEx2Xx106ExSmExSm2Ex8Xx101ExSmExXx2Ex4SmEx5Xx256Sm3Ex9SmEx2Xx245ExSm5XxSm2Xx2Ex4PpSm",
      "PpSmExXx141Sm3Ex4Xx2Ex2Sm4ExXx3SmXx28Ex10Xx40Ex6SmPpEx4Xx8ExXx9Ex6Sm2Ex3Xx40Pp6Ex13SmEx2",
      "Xx405SmEx7XxEx6SmExXx82Ex22XxSmEx7SmEx2SmEx2Xx122Ex6Xx3ExXxEx2XxEx7PpExXx66Sm5XxEx2XxSm2Ex",
      "SmExXx347Ex2Sm2Xx9Ex2PpSmXx48Sm2Ex5Xx3Sm2Ex3Xx23ExXx5333Cn16ExXx6Ex15Xx11464Ex12Sm3Ex3",
      "Xx2496Ex5Xx59Ex7Xx556VXx3V4Xx484ExXxSm55Xx7Ex4Xx81ExXx11Ex2Xx19627Ex2XxCn4Xx4700Ex46Xx2",
      "Ex23Xx542Ex5Xx3Ex6Cn8Ex8Xx2Ex7Xx30Ex4Xx148Ex3Xx1979Ex55Xx4Ex50Xx8ExXx14ExXx22Ex5XxEx15",
      "Xx1360Ex7XxEx17Xx2Ex7XxEx2XxEx5Xx100ExXx160Ex7Xx375ExXx61Ex4Xx508Ex4Xx254Ex2Xx736Ex7Xx109",
      "Ex7Xx2203Ri26Xx507Ex5Xx789504Cn32Ex96Cn128Ex240Cn3600Xx192512"]
  | .word => .ofLines id
    ["Xx10LfNl2CrXx18WsegspaceXxDqXx4SqXx4MnXxMbXxNu10MlMnXx5Le26Xx4ExXxLe26Xx10NlXx36LeXx2FoXx7",
      "LeXxMlXx2LeXx5Le23XxLe31XxLe480Xx6Le34Extend112Le5XxLe2Xx2Le4MnLeXx6LeMlLe3XxLeXxLe20Xx",
      "Le83XxLe139XxExtend7Le166XxLe38Xx2Le4XxLeMlLe41MnLeXx6Extend45XxExtendXxExtend2XxExtend2Xx",
      "ExtendXx8Hl27Xx4Hl4LeMlXx11Nu6Xx6Mn2Xx2Extend11XxFoXx3Le43Extend21Nu10XxNuMnXxLe2Extend",
      "Le99XxLeExtend7NuXxExtend6Le2Extend2XxExtend4Le2Nu10Le3Xx2LeXx15Le2ExtendLe30Extend27Xx2",
      "Le89Extend11LeXx14Nu10Le33Extend9Le2Xx2MnXxLeXx2ExtendXx2Le22Extend4LeExtend9LeExtend3Le",
      "Extend5Xx18Le25Extend3Xx4Le11Xx5Le24XxLe6XxNu2Xx5Extend9Le42Extend24NuExtend33Le54Extend3",
      "LeExtend18LeExtend7Le10Extend2Xx2Nu10XxLe16Extend3XxLe8Xx2Le2Xx2Le22XxLe7XxLeXx3Le4Xx2",
      "ExtendLeExtend7Xx2Extend2Xx2Extend3LeXx8ExtendXx4Le2XxLe3Extend2Xx2Nu10Le2Xx10LeXxExtend",
      "Xx2Extend3XxLe6Xx4Le2Xx2Le22XxLe7XxLe2XxLe2XxLe2Xx2ExtendXxExtend5Xx4Extend2Xx2Extend3Xx3",
      "ExtendXx7Le4XxLeXx7Nu10Extend2Le3ExtendXx11Extend3XxLe9XxLe3XxLe22XxLe7XxLe2XxLe5Xx2Extend",
      "LeExtend8XxExtend3XxExtend3Xx2LeXx15Le2Extend2Xx2Nu10Xx9LeExtend6XxExtend3XxLe8Xx2Le2Xx2",
      "Le22XxLe7XxLe2XxLe5Xx2ExtendLeExtend7Xx2Extend2Xx2Extend3Xx7Extend3Xx4Le2XxLe3Extend2Xx2",
      "Nu10XxLeXx16ExtendLeXxLe6Xx3Le3XxLe4Xx3Le2XxLeXxLe2Xx3Le2Xx3Le3Xx3Le12Xx4Extend5Xx3Extend3",
      "XxExtend4Xx2LeXx6ExtendXx14Nu10Xx16Extend5Le8XxLe3XxLe23XxLe16Xx2ExtendLeExtend7XxExtend3",
      "XxExtend4Xx7Extend2XxLe3Xx2LeXx2Le2Extend2Xx2Nu10Xx16LeExtend3XxLe8XxLe3XxLe23XxLe10XxLe5",
      "Xx2ExtendLeExtend7XxExtend3XxExtend4Xx7Extend2Xx6Le2XxLe2Extend2Xx2Nu10XxLe2ExtendXx12",
      "Extend4Le9XxLe3XxLe41Extend2LeExtend7XxExtend3XxExtend4LeXx5Le3ExtendXx7Le3Extend2Xx2Nu10",
      "Xx10Le6XxExtend3XxLe18Xx3Le24XxLe9XxLeXx2Le7Xx3ExtendXx4Extend6XxExtendXxExtend8Xx6Nu10Xx2",
      "Extend2Xx61ExtendXx2Extend7Xx12Extend8XxNu10Xx87ExtendXx2Extend9Xx11Extend7XxNu10Xx38Le",
      "Xx23Extend2Xx6Nu10Xx11ExtendXxExtendXxExtendXx4Extend2Le8XxLe36Xx4Extend20XxExtend2Le5",
      "Extend11XxExtend36Xx9ExtendXx100Extend20XxNu10Xx12Extend4Xx4Extend3XxExtend3Xx2Extend7Xx3",
      "Extend4Xx13Extend12XxExtendNu10Extend4Xx2Le38XxLeXx5LeXx2Le43XxLe333XxLe4Xx2Le7XxLeXxLe4",
      "Xx2Le41XxLe4Xx2Le33XxLe4Xx2Le7XxLeXxLe4Xx2Le15XxLe57XxLe4Xx2Le67Xx2Extend3Xx32Le16Xx16Le86",
      "Xx2Le6Xx3Le620Xx2Le17WsegspaceLe26Xx5Le75Xx3Le11Xx7Le18Extend4Xx9Le19Extend3Xx11Le18",
      "Extend2Xx12Le13XxLe3XxExtend2Xx64Extend32Xx9ExtendXx2Nu10Xx33Extend3FoExtendNu10Xx6Le89Xx7",
      "Le5Extend2Le34ExtendLeXx5Le70Xx10Le31XxExtend12Xx4Extend12Xx10Nu10Xx128Nu11Xx37Le23Extend5",
      "Xx57Extend10XxExtend29Xx2ExtendNu10Xx6Nu10Xx22Extend31Xx49Extend5Le47Extend17Le8Xx3Nu10",
      "Xx17Extend9Xx12Extend3Le30Extend13Le2Nu10Le44Extend14Xx12Le36Extend20Xx8Nu10Xx3Le3Nu10Le36",
      "Xx2Le11Xx5Le43Xx2Le3Xx16Extend3XxExtend21Le4ExtendLe6ExtendLe2Extend3LeXx5Le192Extend64",
      "Le278Xx2Le6Xx2Le38Xx2Le6Xx2Le8XxLeXxLeXxLeXxLe31Xx2Le53XxLe7XxLeXx3Le3XxLe7Xx3Le4Xx2Le6Xx4",
      "Le13Xx5Le3XxLe7Xx3Wsegspace7XxWsegspace3XxExtendZwjFo2Xx8Mb2Xx10MbXx2MlNl2Fo5ExXx15Ex2Xx3",
      "MnXx15ExXx10WsegspaceFo5XxFo10XxLeXx13LeXx16Le13Xx51Extend33Xx17LeXx4LeXx2Le10XxLeXx3Le5",
      "Xx6LeXxLeXxLeXxLe4XxLe11Xx2Le4Xx5Le5Xx4LeXx17Le41Xx813Le52Xx1814Le229Xx6Le4Extend3Le2Xx12",
      "Le38XxLeXx5LeXx2Le56Xx7LeXx15ExtendLe23Xx9Le7XxLe7XxLe7XxLe7XxLe7XxLe7XxLe7XxLe7XxExtend32",
      "Xx47LeXx464WsegspaceXx4LeXx36Extend6XxKa5Xx5Le2Xx92Extend2Ka2Xx3Ka91XxKa4Xx5Le43XxLe94Xx17",
      "Le32Xx48Ka16Xx208Ka47XxKa88Xx27816Le1165Xx67Le46Xx2Le269Xx3Le16Nu10Le2Xx20Le47Extend4Xx",
      "Extend10XxLe31Extend2Le80Extend2Xx22Le198Xx2Le2XxLeXxLe8Xx21Le16ExtendLe3ExtendLe4Extend",
      "Le23Extend5Xx4ExtendXx19Le52Xx12Extend2Le50Extend18Xx10Nu10Xx6Extend18Le6Xx3LeXxLe2Extend",
      "Nu10Le28Extend8Xx2Le23Extend13Xx12Le29Xx3Extend4Le47Extend14Xx14LeNu10Xx11ExtendXx10Nu10",
      "Xx6Le41Extend14Xx9Le3ExtendLe8Extend2Xx2Nu10Xx33Extend3Xx50ExtendXxExtend3Xx2Extend2Xx5",
      "Extend2XxExtendXx30Le11Extend5Xx2Le3Extend2Xx10Le6Xx2Le6Xx2Le6Xx9Le7XxLe7XxLe58Xx6Le115",
      "Extend8XxExtend2Xx2Nu10Xx6Le11172Xx12Le23Xx4Le49Xx8964Le7Xx12Le5Xx5HlExtendHl10XxHl13XxHl5",
      "XxHlXxHl2XxHl2XxHl10Le98Xx33Le363Xx18Le64Xx2Le54Xx40Le12Xx4Extend16Xx3MlXx12Extend16Xx3Ex2",
      "Xx24Ex3MnXxMbXxMnMlXx26Le5XxLe135Xx2FoXx7MbXx4MnXxMbXxNu10MlMnXx5Le26Xx4ExXxLe26Xx11Ka56",
      "Extend2Le31Xx3Le6Xx2Le6Xx2Le6Xx2Le3Xx28Fo3Xx4Le12XxLe26XxLe19XxLe2XxLe15Xx2Le14Xx34Le123",
      "Xx69Le53Xx136ExtendXx130Le29Xx3Le49Xx15ExtendXx31Le32Xx13Le30Xx5Le38Extend5Xx5Le30Xx2Le36",
      "Xx4Le8XxLe5Xx42Le158Xx2Nu10Xx6Le36Xx4Le36Xx4Le40Xx8Le52Xx12Le11XxLe15XxLe7XxLe2XxLe11Xx",
      "Le15XxLe7XxLe2Xx3Le52Xx12Le311Xx9Le22Xx10Le8Xx24Le6XxLe42XxLe9Xx69Le6Xx2LeXxLe44XxLe2Xx3Le",
      "Xx2Le23Xx10Le23Xx9Le31Xx65Le19XxLe2Xx10Le22Xx10Le26Xx70Le56Xx6Le2Xx64LeExtend3XxExtend2Xx5",
      "Extend4Le4XxLe3XxLe29Xx2Extend3Xx4ExtendXx32Le29Xx3Le29Xx35Le8XxLe28Extend2Xx25Le54Xx10",
      "Le22Xx10Le19Xx13Le18Xx110Le73Xx55Le51Xx13Le51Xx13Le36Extend4Xx8Nu10Xx6Nu10Le28Xx3Extend5Xx",
      "Le23Xx250Le42XxExtend2Xx3Le2Xx16Le3Xx55Extend4Le29Xx10LeXx8Le22Extend11Xx31Le18Extend4Xx42",
      "Le21Xx27Le23Xx9Extend3Le53Extend15Xx31Nu10ExtendLe2Extend2LeXx9Extend4Le45Extend11Xx2NuXx4",
      "ExtendXx10NuXx2Le25Xx7Nu10Xx6Extend3Le36Extend14XxNu10Xx4LeExtend2LeXx8Le35ExtendXx2LeXx9",
      "Extend3Le48Extend14Le4Xx4Extend4XxExtend2Nu10LeXxLeXx35Le18XxLe25Extend12Xx6ExtendLe2",
      "ExtendXx62Le7XxLeXxLe4XxLe15XxLe10Xx7Le47Extend12Xx5Nu10Xx6Extend4XxLe8Xx2Le2Xx2Le22XxLe7",
      "XxLe2XxLe5XxExtend2LeExtend7Xx2Extend2Xx2Extend3Xx2LeXx6ExtendXx5Le5Extend2Xx2Extend7Xx3",
      "Extend5Xx11Le10XxLeXx2LeXxLe38XxLeExtend9XxExtendXx2ExtendXxExtend4XxExtend5LeExtendLeXx13",
      "Extend2Xx29Le53Extend18Le4Xx5Nu10Xx4ExtendLe3Xx30Le48Extend20Le2XxLeXx8Nu10Xx166Le47",
      "Extend7Xx2Extend9Xx23Le4Extend2Xx34Le48Extend17Xx3LeXx11Nu10Xx38Le43Extend13LeXx7Nu10Xx6",
      "Nu20Xx57Extend15Xx4Nu10Xx198Le44Extend15Xx101Le64Nu10Xx21Le8Xx2LeXx2Le8XxLe2XxLe24Extend6",
      "XxExtend2Xx2Extend4LeExtendLeExtend2Xx12Nu10Xx70Le8Xx2Le39Extend7Xx2Extend7LeXxLeExtend",
      "Xx27LeExtend10Le40Extend7LeExtend4Xx8ExtendXx8LeExtend11Le46Extend16Xx3LeXx18Le73Xx199Le33",
      "Xx15Nu10Xx6Le9XxLe37Extend8XxExtend8LeXx15Nu10Xx24Le30Xx2Extend22XxExtend14Xx73Le7XxLe2Xx",
      "Le38Extend6Xx3ExtendXxExtend2XxExtend7LeExtendXx8Nu10Xx6Le6XxLe2XxLe32Extend5XxExtend2Xx",
      "Extend5LeXx7Nu10Xx310Le19Extend4Xx9Extend2LeExtendLe13XxLe34Extend7Xx3Extend5Xx13Nu10",
      "ExtendXx85LeXx79Le922Xx102Le111Xx17Le196Xx2636Le97Xx15Le1072Fo16ExtendLe6Extend15Xx10",
      "Le3995Xx5Le583Xx6841Le30Extend18Nu10Xx1734Le569Xx7Le31XxNu10Xx6Le79XxNu10Xx6Le30Xx2Extend5",
      "Xx11Le48Extend7Xx9Le4Xx12Nu10Xx9Le21Xx5Le19Xx432Le45Xx3Nu10Xx198Le64Xx128Le75Xx4ExtendLe",
      "Extend55Xx7Extend4Le13Xx64Le2XxLeExtendXx11Extend2Xx16382Ka4XxKa7XxKa2XxKaXx287Ka3Xx50Ka",
      "Xx14Ka4Xx2712Le107Xx5Le13Xx3Le9Xx7Le10Xx3Extend2XxFo4Xx4172Nu10Xx518Extend46Xx2Extend23",
      "Xx542Extend5Xx3Extend6Fo8Extend8Xx2Extend7Xx30Extend4Xx148Extend3Xx443Le85XxLe71XxLe2Xx2Le",
      "Xx2Le2Xx2Le4XxLe12XxLeXxLe7XxLe65XxLe4Xx2Le8XxLe7XxLe28XxLe4XxLe5XxLeXx3Le7XxLe340Xx2Le25",
      "XxLe25XxLe31XxLe25XxLe31XxLe25XxLe31XxLe25XxLe31XxLe25XxLe8Xx2Nu50Xx512Extend55Xx4Extend50",
      "Xx8ExtendXx14ExtendXx22Extend5XxExtend15Xx1104Le31Xx6Le6Xx213Extend7XxExtend17Xx2Extend7Xx",
      "Extend2XxExtend5Xx5Le62Xx33ExtendXx112Le45Xx3Extend7Le7Xx2Nu10Xx4LeXx321Le30ExtendXx17Le44",
      "Extend4Nu10Xx470Le28Extend4Nu10Xx214Le30Extend2LeNu10Xx485Le7XxLe4XxLe2XxLe15XxLe197Xx11",
      "Extend7Xx41Le68Extend7LeXx4Nu10Xx1190Le4XxLe27XxLe2XxLeXx2LeXxLe10XxLe4XxLeXxLeXx6LeXx4Le",
      "XxLeXxLeXxLe3XxLe2XxLeXx2LeXxLeXxLeXxLeXxLeXxLe2XxLeXx2Le4XxLe7XxLe4XxLe4XxLeXxLe10XxLe17",
      "Xx5Le3XxLe5XxLe17Xx628Le26Xx6Le26Xx6Le26Xx92Ri26Xx507Extend5Xx2032Nu10Xx787463FoXx30",
      "Extend96Xx128Extend240Xx196112"]
  | .sentence => .ofLines id
    ["Xx9SpLfSp2CrXx18SpStClXx4Cl3Xx2Sc2AtXxNu10Sc2Xx3StXxUp26ClXxClXx3Lo26ClXxClXx7SeXx26SpXx9",
      "LoClXxFoXx7LoXx4LoClXx4Up23XxUp7Lo24XxLo8UpLoUpLoUpLoUpLoUpLoUpLoUpLoUpLoUpLoUpLoUpLoUpLo",
      "UpLoUpLoUpLoUpLoUpLoUpLoUpLoUpLoUpLoUpLoUpLoUpLoUpLoUpLoUpLoUpLo2UpLoUpLoUpLoUpLoUpLoUpLo",
      "UpLoUpLo2UpLoUpLoUpLoUpLoUpLoUpLoUpLoUpLoUpLoUpLoUpLoUpLoUpLoUpLoUpLoUpLoUpLoUpLoUpLoUpLo",
      "UpLoUpLoUpLoUp2LoUpLoUpLo3Up2LoUpLoUp2LoUp3Lo2Up4LoUp2LoUp3Lo3Up2LoUp2LoUpLoUpLoUp2LoUpLo2",
      "UpLoUp2LoUp3LoUpLoUp2Lo2LeUpLo3Le4Up2LoUp2LoUp2LoUpLoUpLoUpLoUpLoUpLoUpLoUpLoUpLo2UpLoUpLo",
      "UpLoUpLoUpLoUpLoUpLoUpLoUpLo2Up2LoUpLoUp3LoUpLoUpLoUpLoUpLoUpLoUpLoUpLoUpLoUpLoUpLoUpLoUp",
      "LoUpLoUpLoUpLoUpLoUpLoUpLoUpLoUpLoUpLoUpLoUpLoUpLoUpLoUpLoUpLoUpLoUpLo7Up2LoUp2Lo2UpLoUp4",
      "LoUpLoUpLoUpLoUpLo69LeLo36Le7Lo2Xx4Le12Xx14Lo5Xx7LeXxLeXx17Ex112UpLoUpLoLeXxUpLoXx2Lo4ScUp",
      "Xx6UpXxUp3XxUpXxUp2LoUp17XxUp9Lo35UpLo2Up3Lo3UpLoUpLoUpLoUpLoUpLoUpLoUpLoUpLoUpLoUpLoUpLo",
      "UpLo5UpLoXxUpLoUp2Lo2Up51Lo48UpLoUpLoUpLoUpLoUpLoUpLoUpLoUpLoUpLoUpLoUpLoUpLoUpLoUpLoUpLo",
      "UpLoUpLoXxEx7UpLoUpLoUpLoUpLoUpLoUpLoUpLoUpLoUpLoUpLoUpLoUpLoUpLoUpLoUpLoUpLoUpLoUpLoUpLo",
      "UpLoUpLoUpLoUpLoUpLoUpLoUpLoUpLoUp2LoUpLoUpLoUpLoUpLoUpLoUpLo2UpLoUpLoUpLoUpLoUpLoUpLoUpLo",
      "UpLoUpLoUpLoUpLoUpLoUpLoUpLoUpLoUpLoUpLoUpLoUpLoUpLoUpLoUpLoUpLoUpLoUpLoUpLoUpLoUpLoUpLoUp",
      "LoUpLoUpLoUpLoUpLoUpLoUpLoUpLoUpLoUpLoUpLoUpLoUpLoUpLoUpLoUpLoUpLoUpLoUpLoXxUp38Xx2LeXx3Sc",
      "Xx2Lo41StXx7Ex45XxExXxEx2XxEx2XxExXx8Le27Xx4Le5Xx12Nu6Xx6Sc2Xx2Ex11XxFoSt3Le43Ex21Nu10Xx",
      "Nu2XxLe2ExLe99StLeEx7NuXxEx6Le2Ex2XxEx4Le2Nu10Le3Xx2LeSt3Xx12FoLeExLe30Ex27Xx2Le89Ex11Le",
      "Xx14Nu10Le33Ex9Le2Xx2ScStLeXx2ExXx2Le22Ex4LeEx9LeEx3LeEx5Xx9StXxStXx3St2XxLe25Ex3Xx4Le11",
      "Xx5Le24XxLe6XxNu2Xx5Ex9Le42Ex24NuEx33Le54Ex3LeEx18LeEx7Le10Ex2St2Nu10XxLe16Ex3XxLe8Xx2Le2",
      "Xx2Le22XxLe7XxLeXx3Le4Xx2ExLeEx7Xx2Ex2Xx2Ex3LeXx8ExXx4Le2XxLe3Ex2Xx2Nu10Le2Xx10LeXxExXx2",
      "Ex3XxLe6Xx4Le2Xx2Le22XxLe7XxLe2XxLe2XxLe2Xx2ExXxEx5Xx4Ex2Xx2Ex3Xx3ExXx7Le4XxLeXx7Nu10Ex2",
      "Le3ExXx11Ex3XxLe9XxLe3XxLe22XxLe7XxLe2XxLe5Xx2ExLeEx8XxEx3XxEx3Xx2LeXx15Le2Ex2Xx2Nu10Xx9Le",
      "Ex6XxEx3XxLe8Xx2Le2Xx2Le22XxLe7XxLe2XxLe5Xx2ExLeEx7Xx2Ex2Xx2Ex3Xx7Ex3Xx4Le2XxLe3Ex2Xx2Nu10",
      "XxLeXx16ExLeXxLe6Xx3Le3XxLe4Xx3Le2XxLeXxLe2Xx3Le2Xx3Le3Xx3Le12Xx4Ex5Xx3Ex3XxEx4Xx2LeXx6Ex",
      "Xx14Nu10Xx16Ex5Le8XxLe3XxLe23XxLe16Xx2ExLeEx7XxEx3XxEx4Xx7Ex2XxLe3Xx2LeXx2Le2Ex2Xx2Nu10",
      "Xx16LeEx3XxLe8XxLe3XxLe23XxLe10XxLe5Xx2ExLeEx7XxEx3XxEx4Xx7Ex2Xx6Le2XxLe2Ex2Xx2Nu10XxLe2Ex",
      "Xx12Ex4Le9XxLe3XxLe41Ex2LeEx7XxEx3XxEx4LeXx5Le3ExXx7Le3Ex2Xx2Nu10Xx10Le6XxEx3XxLe18Xx3Le24",
      "XxLe9XxLeXx2Le7Xx3ExXx4Ex6XxExXxEx8Xx6Nu10Xx2Ex2Xx13Le48ExLe2Ex7Xx5Le7Ex8XxNu10Xx39Le2XxLe",
      "XxLe5XxLe24XxLeXxLe10ExLe2Ex9LeXx2Le5XxLeXxEx7XxNu10Xx2Le4Xx32LeXx23Ex2Xx6Nu10Xx11ExXxExXx",
      "ExCl4Ex2Le8XxLe36Xx4Ex20XxEx2Le5Ex11XxEx36Xx9ExXx57Le43Ex20LeNu10St2Xx4Le6Ex4Le4Ex3LeEx3",
      "Le2Ex7Le3Ex4Le13Ex12LeExNu10Ex4Xx2Up38XxUpXx5UpXx2Le43XxLoLe332XxLe4Xx2Le7XxLeXxLe4Xx2Le41",
      "XxLe4Xx2Le33XxLe4Xx2Le7XxLeXxLe4Xx2Le15XxLe57XxLe4Xx2Le67Xx2Ex3Xx2StXx4St2Xx23Le16Xx16Up86",
      "Xx2Lo6Xx3Le620XxStLe17SpLe26Cl2Xx3Le75Xx3Le11Xx7Le18Ex4Xx9Le19Ex3St2Xx9Le18Ex2Xx12Le13Xx",
      "Le3XxEx2Xx12Le52Ex32St2XxLeXx4LeExXx2Nu10Xx24ScStXx4ScStXxEx3FoExNu10Xx6Le89Xx7Le5Ex2Le34",
      "ExLeXx5Le70Xx10Le31XxEx12Xx4Ex12Xx8St2Nu10Le30Xx2Le5Xx11Le44Xx4Le26Xx6Nu11Xx37Le23Ex5Xx4",
      "Le53Ex10XxEx29Xx2ExNu10Xx6Nu10Xx13LeSt4Xx4Ex31Xx49Ex5Le47Ex17Le8XxSt2Nu10St2Xx2St2Xx11Ex9",
      "Xx9St3Ex3Le30Ex13Le2Nu10Le44Ex14Xx12Le36Ex20Xx3St2Xx3Nu10Xx3Le3Nu10Le36St2Lo9UpLoXx5Le43",
      "Xx2Le3Xx16Ex3XxEx21Le4ExLe6ExLe2Ex3LeXx5Lo192Ex64UpLoUpLoUpLoUpLoUpLoUpLoUpLoUpLoUpLoUpLo",
      "UpLoUpLoUpLoUpLoUpLoUpLoUpLoUpLoUpLoUpLoUpLoUpLoUpLoUpLoUpLoUpLoUpLoUpLoUpLoUpLoUpLoUpLoUp",
      "LoUpLoUpLoUpLoUpLoUpLoUpLoUpLoUpLoUpLoUpLoUpLoUpLoUpLoUpLoUpLoUpLoUpLoUpLoUpLoUpLoUpLoUpLo",
      "UpLoUpLoUpLoUpLoUpLoUpLoUpLoUpLoUpLoUpLoUpLoUpLoUpLoUpLoUpLoUpLoUpLoUpLoUpLoUpLo9UpLoUpLo",
      "UpLoUpLoUpLoUpLoUpLoUpLoUpLoUpLoUpLoUpLoUpLoUpLoUpLoUpLoUpLoUpLoUpLoUpLoUpLoUpLoUpLoUpLoUp",
      "LoUpLoUpLoUpLoUpLoUpLoUpLoUpLoUpLoUpLoUpLoUpLoUpLoUpLoUpLoUpLoUpLoUpLoUpLoUpLoUpLoUpLoUpLo",
      "UpLoUpLo9Up8Lo6Xx2Up6Xx2Lo8Up8Lo8Up8Lo6Xx2Up6Xx2Lo8XxUpXxUpXxUpXxUpLo8Up8Lo14Xx2Lo8Up8Lo8",
      "Up8Lo8Up8Lo5XxLo2Up5XxLoXx3Lo3XxLo2Up5Xx3Lo4Xx2Lo2Up4Xx4Lo8Up5Xx5Lo3XxLo2Up5Xx3Sp11FoEx2",
      "Fo2Xx3Sc2Xx3Cl8Xx4AtXx3Se2Fo5SpXx9Cl2XxSt2Xx7Cl2St3Xx21SpFo5XxFo10XxLoXx11Cl2LoXx13Cl2Xx",
      "Lo13Xx51Ex33Xx17UpXx4UpXx2LoUp3Lo2Up3LoXxUpXx3Up5Xx6UpXxUpXxUpXxUp4XxLoUp4LoLe4LoXx2Lo2Up2",
      "Xx5UpLo4Xx4LoXx17Up16Lo16Le3UpLoLe4Xx383Cl4Xx29Cl2Xx395Up26Lo26Xx625Cl6Xx7Cl14Xx79Cl2Xx31",
      "Cl10Xx403Cl22Xx63Cl4Xx32Cl2Xx514Up48Lo48UpLoUp3Lo2UpLoUpLoUpLoUp4LoUpLo2UpLo8Up3LoUpLoUpLo",
      "UpLoUpLoUpLoUpLoUpLoUpLoUpLoUpLoUpLoUpLoUpLoUpLoUpLoUpLoUpLoUpLoUpLoUpLoUpLoUpLoUpLoUpLoUp",
      "LoUpLoUpLoUpLoUpLoUpLoUpLoUpLoUpLoUpLoUpLoUpLoUpLoUpLoUpLoUpLoUpLoUpLoUpLoUpLoUpLoUpLoUpLo",
      "UpLoUpLo2Xx6UpLoUpLoEx3UpLoXx5St3Xx4Lo38XxLoXx5LoXx2Le56Xx7LeXx15ExLe23Xx9Le7XxLe7XxLe7Xx",
      "Le7XxLe7XxLe7XxLe7XxLe7XxEx32Cl14Xx14Cl2Xx2Cl10Xx4StLeXx12StXx5ClXx16St2Cl8Xx419SpScStXx2",
      "Le3Cl10Xx2Cl8XxCl3XxLe9Ex6XxLe5Xx2Le5Xx4Le86Xx2Ex2Xx2Le3XxLe90XxLe4Xx5Le43XxLe94Xx17Le32",
      "Xx48Le16Xx512Le6592Xx64Le22157Xx67Le46XxStLe269XxSt2Le16Nu10Le2Xx20UpLoUpLoUpLoUpLoUpLoUp",
      "LoUpLoUpLoUpLoUpLoUpLoUpLoUpLoUpLoUpLoUpLoUpLoUpLoUpLoUpLoUpLoUpLoUpLoLeEx4XxEx10XxLeUpLo",
      "UpLoUpLoUpLoUpLoUpLoUpLoUpLoUpLoUpLoUpLoUpLoUpLoUpLo3Ex2Le80Ex2XxStXx3StXx31Le9Xx2UpLoUpLo",
      "UpLoUpLoUpLoUpLoUpLo3UpLoUpLoUpLoUpLoUpLoUpLoUpLoUpLoUpLoUpLoUpLoUpLoUpLoUpLoUpLoUpLoUpLo",
      "UpLoUpLoUpLoUpLoUpLoUpLoUpLoUpLoUpLoUpLoUpLoUpLoUpLoUpLo10UpLoUpLoUp2LoUpLoUpLoUpLoUpLoLe",
      "Xx2UpLoUpLoLeUpLoUpLo3UpLoUpLoUpLoUpLoUpLoUpLoUpLoUpLoUpLoUpLoUp5LoUp5LoUpLoUpLoUpLoUpLoUp",
      "LoUpLoUpLoUp4LoUpLoUp2LoXx2UpLoXxLoXxLoUpLoUpLoUpLoUpXx21Lo3UpLoLeLo3Le7ExLe3ExLe4ExLe23",
      "Ex5Xx4ExXx19Le52Xx2St2Xx8Ex2Le50Ex18Xx8St2Nu10Xx6Ex18Le6Xx3LeXxLe2ExNu10Le28Ex8XxStLe23",
      "Ex13Xx12Le29Xx3Ex4Le47Ex14Xx7St2Xx5LeNu10Xx6Le5ExLe10Nu10Le5XxLe41Ex14Xx9Le3ExLe8Ex2Xx2",
      "Nu10Xx3St3Le23Xx3LeEx3Le50ExLeEx3Le2Ex2Le5Ex2LeExLeXx24Le3Xx2Le11Ex5St2Le3Ex2Xx10Le6Xx2Le6",
      "Xx2Le6Xx9Le7XxLe7XxLo43XxLo14Xx6Lo80Le35Ex8StEx2Xx2Nu10Xx6Le11172Xx12Le23Xx4Le49Xx8452",
      "Le366Xx2Le106Xx38Lo7Xx12Lo5Xx5LeExLe10XxLe13XxLe5XxLeXxLe2XxLe2XxLe108Xx33Le363Cl2Xx16Le64",
      "Xx2Le54Xx40Le12Xx4Ex16Sc2StSc2St2Cl2Xx7Ex16XxSc2Xx2Cl16Xx2Cl2Xx7Sc2AtXxSc2St2ScCl6Xx4Sc",
      "Xx12Le5XxLe135Xx2FoXxStXx6Cl2Xx2Sc2AtXxNu10Sc2Xx3StXxUp26ClXxClXx3Lo26ClXxClXxCl2StCl2ScXx",
      "Le56Ex2Le31Xx3Le6Xx2Le6Xx2Le6Xx2Le3Xx28Fo3Xx4Le12XxLe26XxLe19XxLe2XxLe15Xx2Le14Xx34Le123",
      "Xx69Le53Xx136ExXx130Le29Xx3Le49Xx15ExXx31Le32Xx13Le30Xx5Le38Ex5Xx5Le30Xx2Le36Xx4Le8XxLe5",
      "Xx42Up40Lo40Le78Xx2Nu10Xx6Up36Xx4Lo36Xx4Le40Xx8Le52Xx12Up11XxUp15XxUp7XxUp2XxLo11XxLo15Xx",
      "Lo7XxLo2Xx3Le52Xx12Le311Xx9Le22Xx10Le8Xx24LoLe2Lo3XxLo42XxLo9Xx69Le6Xx2LeXxLe44XxLe2Xx3Le",
      "Xx2Le23Xx10Le23Xx9Le31Xx65Le19XxLe2Xx10Le22Xx10Le26Xx70Le56Xx6Le2Xx64LeEx3XxEx2Xx5Ex4Le4Xx",
      "Le3XxLe29Xx2Ex3Xx4ExXx22St2Xx8Le29Xx3Le29Xx35Le8XxLe28Ex2Xx25Le54Xx10Le22Xx10Le19Xx13Le18",
      "Xx110Le73Xx55Up51Xx13Lo51Xx13Le36Ex4Xx8Nu10Xx6Nu10Le6Up22Xx3Ex5XxLeLo22Xx250Le42XxEx2Xx3",
      "Le2Xx16Le3Xx55Ex4Le29Xx10LeXx8Le22Ex11Xx4St5Xx22Le18Ex4St4Xx38Le21Xx27Le23Xx9Ex3Le53Ex15",
      "St2Xx29Nu10ExLe2Ex2LeXx9Ex4Le45Ex11Xx2NuSt4ExXx10NuXx2Le25Xx7Nu10Xx6Ex3Le36Ex14XxNu10XxSt3",
      "LeEx2LeXx8Le35ExXx2LeXx9Ex3Le48Ex14Le4St2Xx2Ex4StEx2Nu10LeXxLeXxSt2Xx32Le18XxLe25Ex12St2Xx",
      "St2XxExLe2ExXx62Le7XxLeXxLe4XxLe15XxLe10StXx6Le47Ex12Xx5Nu10Xx6Ex4XxLe8Xx2Le2Xx2Le22XxLe7",
      "XxLe2XxLe5XxEx2LeEx7Xx2Ex2Xx2Ex3Xx2LeXx6ExXx5Le5Ex2Xx2Ex7Xx3Ex5Xx11Le10XxLeXx2LeXxLe38XxLe",
      "Ex9XxExXx2ExXxEx4XxEx5LeExLeSt2Xx11Ex2Xx29Le53Ex18Le4St2Xx3Nu10Xx4ExLe3Xx30Le48Ex20Le2XxLe",
      "Xx8Nu10Xx166Le47Ex7Xx2Ex9XxSt2Xx5St15Le4Ex2Xx34Le48Ex17St2XxLeXx11Nu10Xx38Le43Ex13LeXx7",
      "Nu10Xx6Nu20Xx28Le27Xx2Ex15Xx4Nu10Xx2St3XxLe7Xx185Le44Ex15Xx101Up32Lo32Nu10Xx21Le8Xx2LeXx2",
      "Le8XxLe2XxLe24Ex6XxEx2Xx2Ex4LeExLeEx2StXxStXx9Nu10Xx70Le8Xx2Le39Ex7Xx2Ex7LeXxLeExXx27Le",
      "Ex10Le40Ex7LeEx4Xx3St2Xx3ExXx8LeEx11Le46Ex16XxSt2LeXx18Le73Xx199Le33Xx15Nu10Xx6Le9XxLe37",
      "Ex8XxEx8LeSt2Xx13Nu10Xx24Le30Xx2Ex22XxEx14Xx73Le7XxLe2XxLe38Ex6Xx3ExXxEx2XxEx7LeExXx8Nu10",
      "Xx6Le6XxLe2XxLe32Ex5XxEx2XxEx5LeXx7Nu10Xx310Le19Ex4St2Xx7Ex2LeExLe13XxLe34Ex7Xx3Ex5St2Xx11",
      "Nu10ExXx85LeXx79Le922Xx102Le111Xx17Le196Xx2636Le97Xx15Le1072Fo16ExLe6Ex15Xx10Le3995Xx5",
      "Le583Xx6841Le30Ex18Nu10Xx1734Le569Xx7Le31XxNu10Xx4St2Le79XxNu10Xx6Le30Xx2Ex5StXx10Le48Ex7",
      "St2Xx7Le4StXx11Nu10Xx9Le21Xx5Le19Xx432Le45XxSt2Nu10Xx198Up32Lo32Xx24StXx103Le75Xx4ExLeEx55",
      "Xx7Ex4Le13Xx64Le2XxLeExXx11Ex2Xx14Le6136Xx8Le1238Xx41Le10Xx8935Le4XxLe7XxLe2XxLe291Xx15Le",
      "Xx29Le3Xx2LeXx14Le4Xx8Le396Xx2308Le107Xx5Le13Xx3Le9Xx7Le10Xx3Ex2StFo4Xx4172Nu10Xx518Ex46",
      "Xx2Ex23Xx542Ex5Xx3Ex6Fo8Ex8Xx2Ex7Xx30Ex4Xx148Ex3Xx443Up26Lo26Up26Lo7XxLo18Up26Lo26UpXxUp2",
      "Xx2UpXx2Up2Xx2Up4XxUp8Lo4XxLoXxLo7XxLo11Up26Lo26Up2XxUp4Xx2Up8XxUp7XxLo26Up2XxUp4XxUp5XxUp",
      "Xx3Up7XxLo26Up26Lo26Up26Lo26Up26Lo26Up26Lo26Up26Lo26Up26Lo28Xx2Up25XxLo25XxLo6Up25XxLo25Xx",
      "Lo6Up25XxLo25XxLo6Up25XxLo25XxLo6Up25XxLo25XxLo6UpLoXx2Nu50Xx512Ex55Xx4Ex50Xx8ExXx14ExXx3",
      "StXx18Ex5XxEx15Xx1104Lo10LeLo20Xx6Lo6Xx213Ex7XxEx17Xx2Ex7XxEx2XxEx5Xx5Lo62Xx33ExXx112Le45",
      "Xx3Ex7Le7Xx2Nu10Xx4LeXx321Le30ExXx17Le44Ex4Nu10Xx470Le28Ex4Nu10Xx214Le30Ex2LeNu10Xx485Le7",
      "XxLe4XxLe2XxLe15XxLe197Xx11Ex7Xx41Up34Lo34Ex7LeXx4Nu10Xx1190Le4XxLe27XxLe2XxLeXx2LeXxLe10",
      "XxLe4XxLeXxLeXx6LeXx4LeXxLeXxLeXxLe3XxLe2XxLeXx2LeXxLeXxLeXxLeXxLeXxLe2XxLeXx2Le4XxLe7Xx",
      "Le4XxLe4XxLeXxLe10XxLe17Xx5Le3XxLe5XxLe17Xx628Up26Xx6Up26Xx6Up26Xx1260Cl3Xx1399Nu10Xx1030",
      "Le42720Xx32Le4154Xx6Le222Xx2Le5762Xx14Le7473Xx15Le622Xx2466Le542Xx1506Le4939Xx5Le4192",
      "Xx711761FoXx30Ex96Xx128Ex240Xx196112"]

/-- The code of the part that a character plays. -/
def code (kind : Break) (c : Char) : String := (kind.table.get? c.toNat).getD "Xx"

end Break

end Conform.Unicode
