/-
Module: TrackBrowser.Unicode.Category
Purpose: The general category of every character.
-/
import TrackBrowser.Unicode.RunTable

/-!
Each code point has one of thirty general categories, known by codes of two letters.  The first
letter alone, or `LC`, names a group of them: `Category.members` reads codes of both kinds.
-/

namespace TrackBrowser.Unicode

/-- The general categories. -/
inductive Category where
  | uppercaseLetter
  | lowercaseLetter
  | titlecaseLetter
  | modifierLetter
  | otherLetter
  | nonspacingMark
  | spacingMark
  | enclosingMark
  | decimalNumber
  | letterNumber
  | otherNumber
  | connectorPunctuation
  | dashPunctuation
  | openPunctuation
  | closePunctuation
  | initialPunctuation
  | finalPunctuation
  | otherPunctuation
  | mathSymbol
  | currencySymbol
  | modifierSymbol
  | otherSymbol
  | spaceSeparator
  | lineSeparator
  | paragraphSeparator
  | control
  | format
  | surrogate
  | privateUse
  | unassigned
  deriving DecidableEq, Repr, Inhabited

namespace Category

/-- The two-letter code of a category. -/
def code : Category → String
  | .uppercaseLetter => "Lu"
  | .lowercaseLetter => "Ll"
  | .titlecaseLetter => "Lt"
  | .modifierLetter => "Lm"
  | .otherLetter => "Lo"
  | .nonspacingMark => "Mn"
  | .spacingMark => "Mc"
  | .enclosingMark => "Me"
  | .decimalNumber => "Nd"
  | .letterNumber => "Nl"
  | .otherNumber => "No"
  | .connectorPunctuation => "Pc"
  | .dashPunctuation => "Pd"
  | .openPunctuation => "Ps"
  | .closePunctuation => "Pe"
  | .initialPunctuation => "Pi"
  | .finalPunctuation => "Pf"
  | .otherPunctuation => "Po"
  | .mathSymbol => "Sm"
  | .currencySymbol => "Sc"
  | .modifierSymbol => "Sk"
  | .otherSymbol => "So"
  | .spaceSeparator => "Zs"
  | .lineSeparator => "Zl"
  | .paragraphSeparator => "Zp"
  | .control => "Cc"
  | .format => "Cf"
  | .surrogate => "Cs"
  | .privateUse => "Co"
  | .unassigned => "Cn"

/-- Every category. -/
def all : List Category :=
  [.uppercaseLetter, .lowercaseLetter, .titlecaseLetter, .modifierLetter, .otherLetter,
   .nonspacingMark, .spacingMark, .enclosingMark, .decimalNumber, .letterNumber, .otherNumber,
   .connectorPunctuation, .dashPunctuation, .openPunctuation, .closePunctuation,
   .initialPunctuation, .finalPunctuation, .otherPunctuation, .mathSymbol, .currencySymbol,
   .modifierSymbol, .otherSymbol, .spaceSeparator, .lineSeparator, .paragraphSeparator, .control,
   .format, .surrogate, .privateUse, .unassigned]

/-- The category with a given two-letter code. -/
def ofCode? (text : String) : Option Category :=
  all.find? fun category => category.code == text

/-- The categories that a code names: a code of one letter names every category that starts with
it, and `LC` the three categories of letters with case. -/
def members (text : String) : List Category :=
  if text == "LC" then [.uppercaseLetter, .lowercaseLetter, .titlecaseLetter]
  else
    all.filter fun category => !text.isEmpty && text.toList.isPrefixOf category.code.toList

/-- The runs of equal category, in the order of code points. -/
def table : RunTable Category :=
  let codes := RunTable.ofLines 2
    ["20Cc1Zs3Po1Sc3Po1Ps1Pe1Po1Sm1Po1Pd2PoaNd2Po3Sm2Po1aLu1Ps1Po1Pe1Sk1Pc1Sk1aLl1Ps1Sm1Pe1Sm",
    "21Cc1Zs1Po4Sc1So1Po1Sk1So1Lo1Pi1Sm1Cf1So1Sk1So1Sm2No1Sk1Ll2Po1Sk1No1Lo1Pf3No1Po17Lu1Sm7Lu",
    "18Ll1Sm8Ll1Lu1Ll1Lu1Ll1Lu1Ll1Lu1Ll1Lu1Ll1Lu1Ll1Lu1Ll1Lu1Ll1Lu1Ll1Lu1Ll1Lu1Ll1Lu1Ll1Lu1Ll",
    "1Lu1Ll1Lu1Ll1Lu1Ll1Lu1Ll1Lu1Ll1Lu1Ll1Lu1Ll1Lu1Ll1Lu1Ll1Lu1Ll1Lu1Ll1Lu1Ll1Lu1Ll1Lu1Ll1Lu2Ll",
    "1Lu1Ll1Lu1Ll1Lu1Ll1Lu1Ll1Lu1Ll1Lu1Ll1Lu1Ll1Lu2Ll1Lu1Ll1Lu1Ll1Lu1Ll1Lu1Ll1Lu1Ll1Lu1Ll1Lu1Ll",
    "1Lu1Ll1Lu1Ll1Lu1Ll1Lu1Ll1Lu1Ll1Lu1Ll1Lu1Ll1Lu1Ll1Lu1Ll1Lu1Ll1Lu1Ll1Lu1Ll1Lu1Ll1Lu1Ll1Lu1Ll",
    "1Lu1Ll2Lu1Ll1Lu1Ll1Lu3Ll2Lu1Ll1Lu1Ll2Lu1Ll3Lu2Ll4Lu1Ll2Lu1Ll3Lu3Ll2Lu1Ll2Lu1Ll1Lu1Ll1Lu1Ll",
    "2Lu1Ll1Lu2Ll1Lu1Ll2Lu1Ll3Lu1Ll1Lu1Ll2Lu2Ll1Lo1Lu3Ll4Lo1Lu1Lt1Ll1Lu1Lt1Ll1Lu1Lt1Ll1Lu1Ll1Lu",
    "1Ll1Lu1Ll1Lu1Ll1Lu1Ll1Lu1Ll1Lu1Ll1Lu2Ll1Lu1Ll1Lu1Ll1Lu1Ll1Lu1Ll1Lu1Ll1Lu1Ll1Lu1Ll1Lu1Ll1Lu",
    "2Ll1Lu1Lt1Ll1Lu1Ll3Lu1Ll1Lu1Ll1Lu1Ll1Lu1Ll1Lu1Ll1Lu1Ll1Lu1Ll1Lu1Ll1Lu1Ll1Lu1Ll1Lu1Ll1Lu1Ll",
    "1Lu1Ll1Lu1Ll1Lu1Ll1Lu1Ll1Lu1Ll1Lu1Ll1Lu1Ll1Lu1Ll1Lu1Ll1Lu1Ll1Lu1Ll1Lu1Ll1Lu1Ll1Lu1Ll1Lu1Ll",
    "1Lu1Ll1Lu1Ll1Lu7Ll2Lu1Ll2Lu2Ll1Lu1Ll4Lu1Ll1Lu1Ll1Lu1Ll1Lu1Ll1Lu45Ll1Lo1bLl12Lm4SkcLmeSk5Lm",
    "7Sk1Lm1Sk1Lm11Sk70Mn1Lu1Ll1Lu1Ll1Lm1Sk1Lu1Ll2Cn1Lm3Ll1Po1Lu4Cn2Sk1Lu1Po3Lu1Cn1Lu1Cn2Lu1Ll",
    "11Lu1Cn9Lu23Ll1Lu2Ll3Lu3Ll1Lu1Ll1Lu1Ll1Lu1Ll1Lu1Ll1Lu1Ll1Lu1Ll1Lu1Ll1Lu1Ll1Lu1Ll1Lu1Ll1Lu",
    "1Ll1Lu5Ll1Lu1Ll1Sm1Lu1Ll2Lu2Ll33Lu30Ll1Lu1Ll1Lu1Ll1Lu1Ll1Lu1Ll1Lu1Ll1Lu1Ll1Lu1Ll1Lu1Ll1Lu",
    "1Ll1Lu1Ll1Lu1Ll1Lu1Ll1Lu1Ll1Lu1Ll1Lu1Ll1Lu1Ll1Lu1Ll1So5Mn2Me1Lu1Ll1Lu1Ll1Lu1Ll1Lu1Ll1Lu1Ll",
    "1Lu1Ll1Lu1Ll1Lu1Ll1Lu1Ll1Lu1Ll1Lu1Ll1Lu1Ll1Lu1Ll1Lu1Ll1Lu1Ll1Lu1Ll1Lu1Ll1Lu1Ll1Lu1Ll1Lu1Ll",
    "1Lu1Ll1Lu1Ll1Lu1Ll1Lu1Ll1Lu1Ll1Lu1Ll1Lu1Ll2Lu1Ll1Lu1Ll1Lu1Ll1Lu1Ll1Lu1Ll1Lu1Ll1Lu2Ll1Lu1Ll",
    "1Lu1Ll1Lu1Ll1Lu1Ll1Lu1Ll1Lu1Ll1Lu1Ll1Lu1Ll1Lu1Ll1Lu1Ll1Lu1Ll1Lu1Ll1Lu1Ll1Lu1Ll1Lu1Ll1Lu1Ll",
    "1Lu1Ll1Lu1Ll1Lu1Ll1Lu1Ll1Lu1Ll1Lu1Ll1Lu1Ll1Lu1Ll1Lu1Ll1Lu1Ll1Lu1Ll1Lu1Ll1Lu1Ll1Lu1Ll1Lu1Ll",
    "1Lu1Ll1Lu1Ll1Lu1Ll1Lu1Ll1Lu1Ll1Lu1Ll1Lu1Ll1Lu1Ll1Lu1Ll1Lu1Ll1Lu1Ll1Lu1Ll1Lu1Ll1Lu1Ll1Lu1Ll",
    "1Lu1Ll1Lu1Ll1Cn26Lu2Cn1Lm6Po29Ll1Po1Pd2Cn2So1Sc1Cn2dMn1Pd1Mn1Po2Mn1Po2Mn1Po1Mn8Cn1bLo4Cn",
    "4Lo2PobCn6Cf3Sm2Po1Sc2Po2SobMn1Po1Cf3Po20Lo1LmaLo15MnaNd4Po2Lo1Mn63Lo1Po1Lo7Mn1Cf1So6Mn2Lm",
    "2Mn1So4Mn2LoaNd3Lo2So1LoePo1Cn1Cf1Lo1Mn1eLo1bMn2Cn59LobMn1LoeCnaNd21Lo9Mn2Lm1So3Po1Lm2Cn",
    "1Mn2Sc16Lo4Mn1Lm9Mn1Lm3Mn1Lm5Mn2CnfPo1Cn19Lo3Mn2Cn1Po1CnbLo5Cn18Lo1Sk6Lo1Cn2Cf5Cn9Mn29Lo",
    "1Lm18Mn1Cf20Mn1Mc36Lo1Mn1Mc1Mn1Lo3Mc8Mn4Mc1Mn2Mc1Lo7MnaLo2Mn2PoaNd1Po1LmfLo1Mn2Mc1Cn8Lo2Cn",
    "2Lo2Cn16Lo1Cn7Lo1Cn1Lo3Cn4Lo2Cn1Mn1Lo3Mc4Mn2Cn2Mc2Cn2Mc1Mn1Lo8Cn1Mc4Cn2Lo1Cn3Lo2Mn2CnaNd",
    "2Lo2Sc6No1So1Sc1Lo1Po1Mn2Cn2Mn1Mc1Cn6Lo4Cn2Lo2Cn16Lo1Cn7Lo1Cn2Lo1Cn2Lo1Cn2Lo2Cn1Mn1Cn3Mc",
    "2Mn4Cn2Mn2Cn3Mn3Cn1Mn7Cn4Lo1Cn1Lo7CnaNd2Mn3Lo1Mn1PoaCn2Mn1Mc1Cn9Lo1Cn3Lo1Cn16Lo1Cn7Lo1Cn",
    "2Lo1Cn5Lo2Cn1Mn1Lo3Mc5Mn1Cn2Mn1Mc1Cn2Mc1Mn2Cn1LofCn2Lo2Mn2CnaNd1Po1Sc7Cn1Lo6Mn1Cn1Mn2Mc1Cn",
    "8Lo2Cn2Lo2Cn16Lo1Cn7Lo1Cn2Lo1Cn5Lo2Cn1Mn1Lo1Mc1Mn1Mc4Mn2Cn2Mc2Cn2Mc1Mn7Cn2Mn1Mc4Cn2Lo1Cn",
    "3Lo2Mn2CnaNd1So1Lo6NoaCn1Mn1Lo1Cn6Lo3Cn3Lo1Cn4Lo3Cn2Lo1Cn1Lo1Cn2Lo3Cn2Lo3Cn3Lo3CncLo4Cn2Mc",
    "1Mn2Mc3Cn3Mc1Cn3Mc1Mn2Cn1Lo6Cn1MceCnaNd3No6So1Sc1So5Cn1Mn3Mc1Mn8Lo1Cn3Lo1Cn17Lo1Cn10Lo2Cn",
    "1Mn1Lo3Mn4Mc1Cn3Mn1Cn4Mn7Cn2Mn1Cn3Lo2Cn1Lo2Cn2Lo2Mn2CnaNd7Cn1Po7No1So1Lo1Mn2Mc1Po8Lo1Cn3Lo",
    "1Cn17Lo1CnaLo1Cn5Lo2Cn1Mn1Lo1Mc1Mn5Mc1Cn1Mn2Mc1Cn2Mc2Mn7Cn2Mc6Cn2Lo1Cn2Lo2Mn2CnaNd1Cn2Lo",
    "1MccCn2Mn2Mc9Lo1Cn3Lo1Cn29Lo2Mn1Lo3Mc4Mn1Cn3Mc1Cn3Mc1Mn1Lo1So4Cn3Lo1Mc7No3Lo2Mn2CnaNd9No",
    "1So6Lo1Cn1Mn2Mc1Cn12Lo3Cn18Lo1Cn9Lo1Cn1Lo2Cn7Lo3Cn1Mn4Cn3Mc3Mn1Cn1Mn1Cn8Mc6CnaNd2Cn2Mc1Po",
    "cCn30Lo1Mn2Lo7Mn4Cn1Sc6Lo1Lm8Mn1PoaNd2Po25Cn2Lo1Cn1Lo1Cn5Lo1Cn18Lo1Cn1Lo1CnaLo1Mn2Lo9Mn1Lo",
    "2Cn5Lo1Cn1Lm1Cn7Mn1CnaNd2Cn4Lo20Cn1Lo3SofPo1So1Po3So2Mn6SoaNdaNo1So1Mn1So1Mn1So1Mn1Ps1Pe",
    "1Ps1Pe2Mc8Lo1Cn24Lo4CneMn1Mc5Mn1Po2Mn5LobMn1Cn24Mn1Cn8So1Mn6So1Cn2So5Po4So2Po25Cn2bLo2Mc",
    "4Mn1Mc6Mn1Mc2Mn2Mc2Mn1LoaNd6Po6Lo2Mc2Mn4Lo3Mn1Lo3Mc2Lo7Mc3Lo4MndLo1Mn2Mc2Mn6Mc1Mn1Lo1McaNd",
    "3Mc1Mn2So26Lu1Cn1Lu5Cn1Lu2Cn2bLl1Po1Lm3Ll149Lo1Cn4Lo2Cn7Lo1Cn1Lo1Cn4Lo2Cn29Lo1Cn4Lo2Cn21Lo",
    "1Cn4Lo2Cn7Lo1Cn1Lo1Cn4Lo2CnfLo1Cn39Lo1Cn4Lo2Cn43Lo2Cn3Mn9Po14No3Cn10LoaSo6Cn56Lu2Cn6Ll2Cn",
    "1Pd26cLo1So1Po11Lo1Zs1aLo1Ps1Pe3Cn4bLo3Po3Nl8Lo7Cn12Lo3Mn1Mc9Cn13Lo2Mn1Mc2Po9Cn12Lo2MncCn",
    "dLo1Cn3Lo1Cn2MncCn34Lo2Mn1Mc7Mn8Mc1Mn2McbMn3Po1Lm3Po1Sc1Lo1Mn2CnaNd6CnaNo6Cn6Po1Pd4Po3Mn",
    "1Cf1MnaNd6Cn23Lo1Lm35Lo7Cn5Lo2Mn22Lo1Mn1Lo5Cn46LoaCn1fLo1Cn3Mn4Mc2Mn3Mc4Cn2Mc1Mn6Mc3Mn4Cn",
    "1So3Cn2PoaNd1eLo2Cn5LobCn2cLo4Cn1aLo6CnaNd1No3Cn22So17Lo2Mn2Mc1Mn2Cn2Po35Lo1Mc1Mn1Mc7Mn1Cn",
    "1Mn1Mc1Mn2Mc8Mn6McaMn2Cn1MnaNd6CnaNd6Cn7Po1Lm6Po2CneMn1Me10Mn31Cn4Mn1Mc2fLo1Mn1Mc5Mn1Mc1Mn",
    "5Mc1Mn2Mc8Lo1Cn2PoaNd7PoaSo9Mn9So3Po2Mn1Mc1eLo1Mc4Mn2Mc2Mn1Mc3Mn2LoaNd2cLo1Mn1Mc2Mn3Mc1Mn",
    "1Mc3Mn2Mc8Cn4Po24Lo8Mc8Mn2Mc2Mn3Cn5PoaNd3Cn3LoaNd1eLo6Lm2Po9Ll1Lu1Ll5Cn2bLu2Cn3Lu8Po8Cn3Mn",
    "1PodMn1Mc7Mn4Lo1Mn6Lo1Mn2Lo1Mc2Mn1Lo5Cn2cLl3fLmdLl1Lm22Ll25Lm40Mn1Lu1Ll1Lu1Ll1Lu1Ll1Lu1Ll",
    "1Lu1Ll1Lu1Ll1Lu1Ll1Lu1Ll1Lu1Ll1Lu1Ll1Lu1Ll1Lu1Ll1Lu1Ll1Lu1Ll1Lu1Ll1Lu1Ll1Lu1Ll1Lu1Ll1Lu1Ll",
    "1Lu1Ll1Lu1Ll1Lu1Ll1Lu1Ll1Lu1Ll1Lu1Ll1Lu1Ll1Lu1Ll1Lu1Ll1Lu1Ll1Lu1Ll1Lu1Ll1Lu1Ll1Lu1Ll1Lu1Ll",
    "1Lu1Ll1Lu1Ll1Lu1Ll1Lu1Ll1Lu1Ll1Lu1Ll1Lu1Ll1Lu1Ll1Lu1Ll1Lu1Ll1Lu1Ll1Lu1Ll1Lu1Ll1Lu1Ll1Lu1Ll",
    "1Lu1Ll1Lu1Ll1Lu1Ll1Lu1Ll1Lu1Ll1Lu1Ll1Lu1Ll1Lu1Ll1Lu1Ll1Lu1Ll1Lu1Ll1Lu1Ll1Lu1Ll1Lu1Ll1Lu1Ll",
    "1Lu1Ll1Lu1Ll1Lu1Ll1Lu1Ll1Lu1Ll1Lu1Ll1Lu1Ll1Lu1Ll1Lu1Ll1Lu1Ll1Lu9Ll1Lu1Ll1Lu1Ll1Lu1Ll1Lu1Ll",
    "1Lu1Ll1Lu1Ll1Lu1Ll1Lu1Ll1Lu1Ll1Lu1Ll1Lu1Ll1Lu1Ll1Lu1Ll1Lu1Ll1Lu1Ll1Lu1Ll1Lu1Ll1Lu1Ll1Lu1Ll",
    "1Lu1Ll1Lu1Ll1Lu1Ll1Lu1Ll1Lu1Ll1Lu1Ll1Lu1Ll1Lu1Ll1Lu1Ll1Lu1Ll1Lu1Ll1Lu1Ll1Lu1Ll1Lu1Ll1Lu1Ll",
    "1Lu1Ll1Lu1Ll1Lu1Ll1Lu1Ll1Lu1Ll1Lu1Ll1Lu1Ll1Lu1Ll1Lu1Ll1Lu1Ll1Lu1Ll1Lu1Ll1Lu1Ll1Lu1Ll1Lu9Ll",
    "8Lu6Ll2Cn6Lu2Cn8Ll8Lu8Ll8Lu6Ll2Cn6Lu2Cn8Ll1Cn1Lu1Cn1Lu1Cn1Lu1Cn1Lu8Ll8LueLl2Cn8Ll8Lt8Ll8Lt",
    "8Ll8Lt5Ll1Cn2Ll4Lu1Lt1Sk1Ll3Sk3Ll1Cn2Ll4Lu1Lt3Sk4Ll2Cn2Ll4Lu1Cn3Sk8Ll5Lu3Sk2Cn3Ll1Cn2Ll4Lu",
    "1Lt2Sk1CnbZs5Cf6Pd2Po1Pi1Pf1Ps2Pi1Pf1Ps1Pi8Po1Zl1Zp5Cf1Zs9Po1Pi1Pf4Po2Pc3Po1Sm1Ps1PebPo1Sm",
    "1Po1PcaPo1Zs5Cf1CnaCf1No1Lm2Cn6No3Sm1Ps1Pe1LmaNo3Sm1Ps1Pe1CndLm3Cn21ScfCndMn4Me1Mn3MecMn",
    "fCn2So1Lu4So1Lu2So1Ll3Lu2Ll3Lu1Ll1So1Lu2So1Sm5Lu6So1Lu1So1Lu1So1Lu1So4Lu1So1Ll4Lu1Ll4Lo1Ll",
    "2So2Ll2Lu5Sm1Lu4Ll1So1Sm2So1Ll1So10No23Nl1Lu1Ll4Nl1No2So4Cn5Sm5So2Sm4So1Sm2So1Sm2So1Sm7So",
    "1Sm1fSo2Sm2So1Sm1So1Sm1fSo10cSm8So1Ps1Pe1Ps1Pe14So2Sm7So1Ps1Pe51So1Sm1eSo19Sm28So6Sm48So",
    "16CnbSo15Cn3cNo4eSo16Nob7So1Sm9So1Sm36So8Sm6fSo1Smf8So1Ps1Pe1Ps1Pe1Ps1Pe1Ps1Pe1Ps1Pe1Ps1Pe",
    "1Ps1Pe1eNo2cSo5Sm1Ps1Pe1fSm1Ps1Pe1Ps1Pe1Ps1Pe1Ps1Pe1Ps1Pe10Sm100So83Sm1Ps1Pe1Ps1Pe1Ps1Pe",
    "1Ps1Pe1Ps1Pe1Ps1Pe1Ps1Pe1Ps1Pe1Ps1Pe1Ps1Pe1Ps1Pe3fSm1Ps1Pe1Ps1Pe20Sm1Ps1Pe102Sm30So15Sm2So",
    "6Sm27So2Cn20So1Cn69So30Lu30Ll1Lu1Ll3Lu2Ll1Lu1Ll1Lu1Ll1Lu1Ll4Lu1Ll1Lu2Ll1Lu6Ll2Lm3Lu1Ll1Lu",
    "1Ll1Lu1Ll1Lu1Ll1Lu1Ll1Lu1Ll1Lu1Ll1Lu1Ll1Lu1Ll1Lu1Ll1Lu1Ll1Lu1Ll1Lu1Ll1Lu1Ll1Lu1Ll1Lu1Ll1Lu",
    "1Ll1Lu1Ll1Lu1Ll1Lu1Ll1Lu1Ll1Lu1Ll1Lu1Ll1Lu1Ll1Lu1Ll1Lu1Ll1Lu1Ll1Lu1Ll1Lu1Ll1Lu1Ll1Lu1Ll1Lu",
    "1Ll1Lu1Ll1Lu1Ll1Lu1Ll1Lu1Ll1Lu1Ll1Lu1Ll1Lu1Ll1Lu1Ll1Lu1Ll1Lu1Ll1Lu1Ll1Lu1Ll1Lu1Ll1Lu1Ll1Lu",
    "1Ll1Lu1Ll1Lu1Ll1Lu2Ll6So1Lu1Ll1Lu1Ll3Mn1Lu1Ll5Cn4Po1No2Po26Ll1Cn1Ll5Cn1Ll2Cn38Lo7Cn1Lm1Po",
    "eCn1Mn17Lo9Cn7Lo1Cn7Lo1Cn7Lo1Cn7Lo1Cn7Lo1Cn7Lo1Cn7Lo1Cn7Lo1Cn20Mn2Po1Pi1Pf1Pi1Pf3Po1Pi1Pf",
    "1Po1Pi1Pf9Po1Pd2Po1Pd1Po1Pi1Pf2Po1Pi1Pf1Ps1Pe1Ps1Pe1Ps1Pe1Ps1Pe5Po1LmaPo2Pd4Po1Pd1Po1PsdPo",
    "2So3Po1Ps1Pe1Ps1Pe1Ps1Pe1Ps1Pe1Pd22Cn1aSo1Cn59SocCnd6So1aCn10So1Zs3Po1So1Lm1Lo1Nl1Ps1Pe1Ps",
    "1Pe1Ps1Pe1Ps1Pe1Ps1Pe2So1Ps1Pe1Ps1Pe1Ps1Pe1Ps1Pe1Pd1Ps2Pe1So9Nl4Mn2Mc1Pd5Lm2So3Nl1Lm1Lo1Po",
    "2So1Cn56Lo2Cn2Mn2Sk2Lm1Lo1Pd5aLo1Po3Lm1Lo5Cn2bLo1Cn5eLo1Cn2So4NoaSo20Lo26So9Cn1So10Lo1fSo",
    "1CnaNo1eSo8No1SofNo20SoaNo27SofNo140So19c0Lo40So5215Lo1Lm477Lo3Cn37So9Cn28Lo6Lm2Po10cLo1Lm",
    "3Po10LoaNd2Lo14Cn1Lu1Ll1Lu1Ll1Lu1Ll1Lu1Ll1Lu1Ll1Lu1Ll1Lu1Ll1Lu1Ll1Lu1Ll1Lu1Ll1Lu1Ll1Lu1Ll",
    "1Lu1Ll1Lu1Ll1Lu1Ll1Lu1Ll1Lu1Ll1Lu1Ll1Lu1Ll1Lu1Ll1Lu1Ll1Lu1Ll1Lu1Ll1Lo1Mn3Me1PoaMn1Po1Lm1Lu",
    "1Ll1Lu1Ll1Lu1Ll1Lu1Ll1Lu1Ll1Lu1Ll1Lu1Ll1Lu1Ll1Lu1Ll1Lu1Ll1Lu1Ll1Lu1Ll1Lu1Ll1Lu1Ll2Lm2Mn",
    "46LoaNl2Mn6Po8Cn17Sk9Lm2Sk1Lu1Ll1Lu1Ll1Lu1Ll1Lu1Ll1Lu1Ll1Lu1Ll1Lu3Ll1Lu1Ll1Lu1Ll1Lu1Ll1Lu",
    "1Ll1Lu1Ll1Lu1Ll1Lu1Ll1Lu1Ll1Lu1Ll1Lu1Ll1Lu1Ll1Lu1Ll1Lu1Ll1Lu1Ll1Lu1Ll1Lu1Ll1Lu1Ll1Lu1Ll1Lu",
    "1Ll1Lu1Ll1Lu1Ll1Lu1Ll1Lu1Ll1Lu1Ll1Lu1Ll1Lu1Ll1Lu1Ll1Lu1Ll1Lu1Ll1Lu1Ll1Lu1Ll1Lm8Ll1Lu1Ll1Lu",
    "1Ll2Lu1Ll1Lu1Ll1Lu1Ll1Lu1Ll1Lu1Ll1Lm2Sk1Lu1Ll1Lu1Ll1Lo1Lu1Ll1Lu3Ll1Lu1Ll1Lu1Ll1Lu1Ll1Lu1Ll",
    "1Lu1Ll1Lu1Ll1Lu1Ll1Lu1Ll1Lu1Ll1Lu1Ll5Lu1Ll5Lu1Ll1Lu1Ll1Lu1Ll1Lu1Ll1Lu1Ll1Lu1Ll1Lu1Ll1Lu1Ll",
    "4Lu1Ll1Lu1Ll2Lu1Ll2Cn1Lu1Ll1Cn1Ll1Cn1Ll1Lu1Ll1Lu1Ll1Lu1Ll1Lu15Cn3Lm1Lu1Ll1Lo2Lm1Ll7Lo1Mn",
    "3Lo1Mn4Lo1Mn17Lo2Mc2Mn1Mc4So1Mn3Cn6No2So1Sc1So6Cn34Lo4Po8Cn2Mc32Lo10Mc2Mn8Cn2PoaNd6Cn12Mn",
    "6Lo3Po1Lo1Po2Lo1MnaNd1cLo8Mn2Po17LobMn2McbCn1Po1dLo3Cn3Mn1Mc2fLo1Mn2Mc4Mn2Mc2Mn3McdPo1Cn",
    "1LmaNd4Cn2Po5Lo1Mn1Lm9LoaNd5Lo1Cn29Lo6Mn2Mc2Mn2Mc2Mn9Cn3Lo1Mn8Lo1Mn1Mc2CnaNd2Cn4Po10Lo1Lm",
    "6Lo3So1Lo1Mc1Mn1Mc32Lo1Mn1Lo3Mn2Lo2Mn5Lo2Mn1Lo1Mn1Lo18Cn2Lo1Lm2PobLo1Mc2Mn2Mc2Po1Lo2Lm1Mc",
    "1MnaCn6Lo2Cn6Lo2Cn6Lo9Cn7Lo1Cn7Lo1Cn2bLl1Sk4Lm9Ll1Lm2Sk4Cn50Ll23Lo2Mc1Mn2Mc1Mn2Mc1Po1Mc1Mn",
    "2CnaNd6Cn2ba4LocCn17Lo4Cn31Lo4Cn800Cs1900Co16eLo2Cn6aLo26Cn7LlcCn5Ll5Cn1Lo1MnaLo1SmdLo1Cn",
    "5Lo1Cn1Lo1Cn2Lo1Cn2Lo1Cn6cLo11Sk10Cn16bLo1Pe1Ps10So40Lo2Cn36Lo7Cn1So20CncLo1Sc3So10Mn7Po",
    "1Ps1Pe1Po6Cn10Mn1Po2Pd2Pc1Ps1Pe1Ps1Pe1Ps1Pe1Ps1Pe1Ps1Pe1Ps1Pe1Ps1Pe1Ps1Pe2Po1Ps1Pe4Po3Pc",
    "3Po1Cn4Po1Pd1Ps1Pe1Ps1Pe1Ps1Pe3Po1Sm1Pd3Sm1Cn1Po1Sc2Po4Cn5Lo1Cn87Lo2Cn1Cf1Cn3Po1Sc3Po1Ps",
    "1Pe1Po1Sm1Po1Pd2PoaNd2Po3Sm2Po1aLu1Ps1Po1Pe1Sk1Pc1Sk1aLl1Ps1Sm1Pe1Sm1Ps1Pe1Po1Ps1Pe2PoaLo",
    "1Lm2dLo2Lm1fLo3Cn6Lo2Cn6Lo2Cn6Lo2Cn3Lo3Cn2Sc1Sm1Sk1So2Sc1Cn1So4Sm2SoaCn3Cf2So2CncLo1Cn1aLo",
    "1Cn13Lo1Cn2Lo1CnfLo2CneLo22Cn7bLo5Cn3Po4Cn2dNo3Cn9So35Nl4No11So2No3So1CndSo3Cn1So2fCn2dSo",
    "1Mn82Cn1dLo3Cn31LofCn1Mn1bNo4Cn20Lo4No9Cn14Lo1Nl8Lo1Nl5Cn26Lo5Mn5Cn1eLo1Cn1Po24Lo4Cn8Lo1Po",
    "5Nl2aCn28Lu28Ll4eLo2CnaNd6Cn24Lu4Cn24Ll4Cn28Lo8Cn34LobCn1PobLu1CnfLu1Cn7Lu1Cn2Lu1CnbLl1Cn",
    "fLl1Cn7Ll1Cn2Ll3Cn34LocCn137Lo9Cn16LoaCn8Lo18Cn6Lm1Cn2aLm1Cn9Lm45Cn6Lo2Cn1Lo1Cn2cLo1Cn2Lo",
    "3Cn1Lo2Cn17Lo1Cn1Po8No17Lo2So7No1fLo8Cn9No30Cn13Lo1Cn2Lo5Cn5No16Lo6No3Cn1Po1aLo5Cn1Po40Cn",
    "38Lo4Cn2No2Lo10No2Cn2eNo1Lo3Mn1Cn2Mn5Cn4Mn4Lo1Cn3Lo1Cn1dLo2Cn3Mn4Cn1Mn9No7Cn9Po7Cn1dLo2No",
    "1Po1dLo3No20Cn8Lo1So1cLo2Mn4Cn5No7Po9Cn36Lo3Cn7Po16Lo2Cn8No13Lo5Cn8No12Lo7Cn4PocCn7No50Cn",
    "49Lo37Cn33LudCn33Ll7Cn6No24Lo4Mn8CnaNd6CnaNd4Lo1Lm1Lo16Lu3Cn5Mn1Pd1Lm16Ll8Cn2Smd0Cn1fNo1Cn",
    "2aLo1Cn2Mn1Pd2Cn2Lo10Cn3Lo37Cn4Mn1dLoaNo1Lo8Cn16LobMn4No5Po16Cn12Lo4Mn4Po26Cn15Lo7No14Cn",
    "17Lo9Cn1Mc1Mn1Mc35LofMn7Po4Cn14NoaNd1Mn2Lo2Mn1Lo9Cn3Mn1Mc2dLo3Mc4Mn2Mc2Mn2Po1Cf4Po1MnaCn",
    "1Cf2Cn19Lo7CnaNd6Cn3Mn24Lo5Mn1Mc8Mn1CnaNd4Po1Lo2Mc1Lo8Cn23Lo1Mn2Po1Lo9Cn2Mn1Mc30Lo3Mc9Mn",
    "2Mc4Lo4Po4Mn1Po1Mc1MnaNd1Lo1Po1Lo3Po1Cn14NobCn12Lo1Cn19Lo3Mc3Mn2Mc1Mn1Mc2Mn6Po1Mn2Lo1Mn",
    "3eCn7Lo1Cn1Lo1Cn4Lo1CnfLo1CnaLo1Po6Cn2fLo1Mn3Mc8Mn5CnaNd6Cn2Mn2Mc1Cn8Lo2Cn2Lo2Cn16Lo1Cn7Lo",
    "1Cn2Lo1Cn5Lo1Cn2Mn1Lo2Mc1Mn4Mc2Cn2Mc2Cn3Mc2Cn1Lo6Cn1Mc5Cn5Lo2Mc2Cn7Mn3Cn5MnbCnaLo1Cn1Lo2Cn",
    "1Lo1Cn26Lo1Cn1Lo3Mc6Mn1Cn1Mc2Cn1Mc1Cn4Mc1Cn2Mc1Mn1Mc1Mn1Lo1Mn1Lo2Po1Cn2Po8Cn2Mn1dCn35Lo3Mc",
    "8Mn2Mc3Mn1Mc1Mn4Lo5PoaNd2Po1Cn1Po1Mn3Lo1eCn30Lo3Mc6Mn1Mc1Mn4Mc2Mn1Mc2Mn2Lo1Po1Lo8CnaNda6Cn",
    "2fLo3Mc4Mn2Cn4Mc2Mn1Mc2Mn17Po4Lo2Mn22Cn30Lo3Mc8Mn2Mc1Mn1Mc2Mn3Po1LobCnaNd6CndPo13Cn2bLo1Mn",
    "1Mc1Mn2Mc6Mn1Mc1Mn1Lo1Po6CnaNd6Cn14Nd1cCn1bLo2Cn1Mn1Mc1Mn2Mc4Mn1Mc5Mn4CnaNd2No3Po1So7Lo",
    "b9Cn2cLo3Mc9Mn1Mc2Mn1Po64Cn20Lu20LlaNd9NocCn8Lo2Cn1Lo2Cn8Lo1Cn2Lo1Cn18Lo6Mc1Cn2Mc2Cn2Mn1Mc",
    "1Mn1Lo1Mc1Lo1Mc1Mn3Po9CnaNd46Cn8Lo2Cn27Lo3Mc4Mn2Cn2Mn4Mc1Mn1Lo1Po1Lo1Mc1bCn1LoaMn28Lo6Mn",
    "1Mc1Lo4Mn8Po1Mn8Cn1Lo6Mn2Mc3Mn2eLodMn1Mc2Mn3Po1Lo5PodCn49Lo7CnaPob6Cn21Lo1PoeCnaNd6Cn9Lo",
    "1Cn25Lo1Mc7Mn1Cn6Mn1Mc1Mn1Lo5PoaCnaNd13No3Cn2Po1eLo2Cn16Mn1Cn1Mc7Mn1Mc2Mn1Mc2Mn49Cn7Lo1Cn",
    "2Lo1Cn26Lo6Mn3Cn1Mn1Cn2Mn1Cn7Mn1Lo1Mn8CnaNd6Cn6Lo1Cn2Lo1Cn20Lo5Mc1Cn2Mn1Cn2Mc1Mn1Mc1Mn1Lo",
    "7CnaNd136Cn13Lo2Mn2Mc2Po7Cn2Mn1Lo1McdLo1Cn22Lo2Mc5Mn3Cn2Mc1Mn1Mc1MndPoaNd1Mn55Cn1LofCn15No",
    "8So4Sc11SodCn1Po39aLo66Cn6fNl1Cn5PobCnc4Loa4cCn61Lo2PodCn430Lo10Cf1Mn6LofMnaCnf9bLo5Cn",
    "247Lo1ab9Cn1eLocMn3Mc3MnaNd6c6Cn239Lo7Cn1fLo1CnaNd4Cn2Po4fLo1CnaNd6Cn1eLo2Cn5Mn1PoaCn30Lo",
    "7Mn5Po4So4Lm1Po1SoaCnaNd1Cn7No1Cn15Lo5Cn13Lo1b0Cn3Lm28Lo2Lm3PoaNdc6Cn20Lu20Ll17No4Po65Cn",
    "4bLo4Cn1Mn1Lo37Mc7Cn4MndLm40Cn2Lm1Po1Lm1MnbCn2MceCn17f8Lo8Cn4d6Lo29CnaLo22e7Cn4Lm1Cn7Lm1Cn",
    "2Lm1Cn123LofCn1Lo1dCn3Lo2Cn1LoeCn4Lo8Cn18cLo904Cn6bLo5CndLo3Cn9Lo7CnaLo2Cn1So2Mn1Po4Cf",
    "f5cCnf0SoaNd6Cn1b4So4cCn2eMn2Cn17Mn9Cn74So3cCnf6SoaCn27So2Cn3cSo2Mc3Mn3So6Mc8Cf8Mn2So7Mn",
    "1eSo4Mn3dSo15Cn42So3Mn1So7aCn14NocCn14NocCn57So9Cn19No87Cn1aLu1aLl1aLu7Ll1Cn12Ll1aLu1aLl",
    "1Lu1Cn2Lu2Cn1Lu2Cn2Lu2Cn4Lu1Cn8Lu4Ll1Cn1Ll1Cn7Ll1CnbLl1aLu1aLl2Lu1Cn4Lu2Cn8Lu1Cn7Lu1Cn1aLl",
    "2Lu1Cn4Lu1Cn5Lu1Cn1Lu3Cn7Lu1Cn1aLl1aLu1aLl1aLu1aLl1aLu1aLl1aLu1aLl1aLu1aLl1aLu1cLl2Cn19Lu",
    "1Sm19Ll1Sm6Ll19Lu1Sm19Ll1Sm6Ll19Lu1Sm19Ll1Sm6Ll19Lu1Sm19Ll1Sm6Ll19Lu1Sm19Ll1Sm6Ll1Lu1Ll2Cn",
    "32Nd200So37Mn4So32Mn8So1MneSo1Mn2So5PofCn5Mn1CnfMn450CnaLl1Lo14Ll6Cn6Lld5Cn7Mn1Cn11Mn2Cn",
    "7Mn1Cn2Mn1Cn5Mn5Cn3eLm21Cn1Mn70Cn2dLo3Cn7Mn7Lm2CnaNd4Cn1Lo1So140Cn1eLo1Mn11Cn2cLo4MnaNd5Cn",
    "1Sc1d0Cn1bLo1Lm4MnaNdd6Cn1eLo2Mn1LoaNd4Cn1Po1e0Cn7Lo1Cn4Lo1Cn2Lo1CnfLo1Cnc5Lo2Cn9No7Mn29Cn",
    "22Lu22Ll7Mn1Lm4CnaNd4Cn2Po311Cn3bNo1So3No1Sc4No4cCn2dNo1SofNoc2Cn4Lo1Cn1bLo1Cn2Lo1Cn1Lo2Cn",
    "1Lo1CnaLo1Cn4Lo1Cn1Lo1Cn1Lo6Cn1Lo4Cn1Lo1Cn1Lo1Cn1Lo1Cn3Lo1Cn2Lo1Cn1Lo2Cn1Lo1Cn1Lo1Cn1Lo1Cn",
    "1Lo1Cn1Lo1Cn2Lo1Cn1Lo2Cn4Lo1Cn7Lo1Cn4Lo1Cn4Lo1Cn1Lo1CnaLo1Cn11Lo5Cn3Lo1Cn5Lo1Cn11Lo34Cn2Sm",
    "10eCn2cSo4Cn64SocCnfSo2CnfSo1CnfSo1Cn25SoaCndNoa1So38Cn1dSodCn2cSo4Cn9So7Cn2SoeCn6So9aCn",
    "fbSo5Sk2d8So4Cn11So3CndSo3Cn77So4Cn5fSo6CncSo4Cn1SofCncSo4Cn38So8CnaSo6Cn28So8Cn1eSo2CncSo",
    "4Cn2So3eCn154SocCneSo2CndSo3CnaSo5Cn38So7CnfSo2CnbSo6Cn9So7Cn93So1Cn5cSoaNd406Cna6e0Lo20Cn",
    "103aLo6CndeLo2Cn1682LoeCn1d31LofCn26eLo9a2Cn21eLo5e2Cn134bLo5Cn1060Loadc51Cn1Cf1eCn60Cf",
    "80Cnf0Mnfe10CnfffeCo2CnfffeCo2Cn"]
  ⟨codes.runs.map fun (start, code) => (start, (ofCode? code).getD .unassigned)⟩

end Category

/-- The general category of a character. -/
def category (c : Char) : Category :=
  (Category.table.lookup? c.toNat).getD .unassigned

end TrackBrowser.Unicode
