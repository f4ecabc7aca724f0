import Conform.Unicode.Property
/-!
# Recent characters

Unicode 17 adds characters to those that the other tables record. The sets of patterns do not know
them yet; names and quoted texts do.
-/

namespace Conform.Unicode

/-- The categories of the characters that Unicode 17 adds. -/
def Category.additions : Runs Category := .ofLines ofShortName
  ["Cn2191LoCn972LoCn127LoCn3570Mn15Cn2Mn12Cn1493ScCn2772SoCn31799LuLlCn2LuCnLuCn28LmCn21457So16",
    "Cn445So2Cn54So7Cn2929Lo26Cn1387LmLo2Cn8PoSo8Cn33Mn2Cn3172MnMcMn3McMnMcCn584Lo41LmLo2Cn4Nd10",
    "Cn20662Lu25Cn2Ll25Cn286Lm2Nl3Cn6145Lo8Cn1289Lo22Cn97Lo115Cn16135So3Cn445So23Cn15So16SmCn6095",
    "Lo31CnLo3MnLo2MnLo7Mn2Lo5MnCn8LoLmCn4056SoCn158So4Cn341Sm9Cn379So4Cn50SoCn3SoCn57SoCn4SoCn28",
    "SoCn4SoCn266SoCn47935Lo6Cn5986Lo12Cn21762Lo4298Cn904070"]

/-- The general category of a character in Unicode 17. -/
def recentCategory (c : Char) : Category :=
  match category c with
  | .unassigned => (Category.additions.get? c.toNat).getD .unassigned
  | known => known

/-- Whether Unicode 17 adds a character with one of the categories. -/
def isAddition (categories : List Category) (c : Char) : Bool :=
  category c = .unassigned && categories.contains (recentCategory c)

/-- Whether a character is alphabetic in Unicode 17. Of the additions, the marks that take up no
space are if they lie beyond the first plane. -/
def isAlphabetic (c : Char) : Bool :=
  Property.alphabetic.holds c ||
    isAddition (Category.letters ++ [.letterNumber, .spacingMark]) c ||
    (0x10000 ≤ c.val && isAddition [.nonspacingMark] c)

/-- Whether a character extends the one before it in Unicode 17. -/
def extendsGrapheme (c : Char) : Bool :=
  Property.graphemeExtend.holds c || isAddition [.nonspacingMark] c

end Conform.Unicode
