/-
The direction of labels.

Letters run from left to right or from right to left, and numbers and marks between
them go one way or the other by rules of their own. A name that has letters of both
kinds could be shown in an order that misleads. So as soon as one label of a name has
a character that runs to the left, every label has to run one way: it starts with a
letter of that way, holds nothing of the other, and ends with a letter or a number,
marks apart.

The tables are about characters that a name may hold; ranges run on over others.
-/
import KeyedLocks.Text.Mark

set_option autoImplicit false

namespace KeyedLocks.Domain

open KeyedLocks.Text

/-! ## Kinds of characters -/

/-- What a character means for the direction of a text: a letter that runs to the right,
one that runs to the left (Arabic or another), a number (European or Arabic), a sign that
goes with numbers, something neutral, something without a shape, or a mark. -/
inductive Bidi where
  | right
  | left
  | arabic
  | european
  | arabicNumber
  | sign
  | neutral
  | boundary
  | mark
  deriving DecidableEq, Repr

/-- Letters that run to the left, the Arabic ones apart. -/
def leftRanges : CodeRanges := .ofText
  "5BE 5C0 5C3 5C6 5D0-5F4 7C0-7EA 7F4-7F5 7FA 7FE-815 81A 824 828 830-858 85E 10800-1091B
   10920-10A00 10A10-10A35 10A40-10AE4 10AEB-10B35 10B40-10CFF 10D40-10D4F 10D6F-10D8F
   10E80-10EA9 10EAD-10EB1 10F00-10F27 10F70-10F81 10F86-10FF6 1E800-1E8CF 1E922-1E943
   1E94B-1E95F"

/-- Arabic letters. -/
def arabicRanges : CodeRanges := .ofText
  "608 60B 60D 61B-64A 66D-66F 671-6D5 6E5-6E6 6EE-6EF 6FA-710 712-72F 74D-7A5 7B1 860-88F
   8A0-8C9 FBB2-FBC2 FE73 10D00-10D23 10EC2-10EC7 10F30-10F45 10F51-10F59 1EC71-1ED3D"

/-- Arabic numbers. -/
def arabicNumberRanges : CodeRanges := .ofText "660-669 66B-66C 10D30-10D39 10E60-10E7E"

/-- European numbers. -/
def europeanRanges : CodeRanges := .ofText "30-39 6F0-6F9 102E1-102FB"

/-- Signs in front of, behind, and inside numbers. -/
def signRanges : CodeRanges := .ofText
  "23-25 2B-2F 3A A2-A5 B0-B1 58F 609-60A 60C 66A 9F2-9F3 9FB AF1 BF9 E3F 17DB 2030-2032 2044
   20A0-20C1 212E 2212-2213 A838-A839 11FDD-11FE0 1E2FF"

/-- Characters that take the direction of what is around them. -/
def neutralRanges : CodeRanges := .ofText
  "9-D 1C-22 26-2A 3B-60 7B-7E A1 A6-AE B6-D7 F7 2B9-2BA 2C2-2CF 2D2-2ED 2EF-2FF 375 3F6 58A-58E
   606-607 60E-60F 6DE 6E9 7F6-7F9 BF3-BF8 BFA C78-C7E F3A-F3D 1390-1399 1400 169B-169C 17F0-180A
   1940-1945 19DE-19FF 2010-2027 2035-2043 2045-205E 2104-2129 213A-214D 218A-2211 2214-2335
   237B-2394 2396-26AB 26AD-27FF 2900-2BFF 2CE5-2CEA 2CF9-2CFF 2E00-3004 3008-3020 3030 3037
   303D-303F 30A0 30FB 31C0-31E5 4DC0-4DFF A490-A4C6 A60D-A60F A673 A67E-A67F A700-A721 A788
   A828-A82B A874-A877 AB6A-AB6B FBC3-FDFF FE45-FE46 10101 10140-1018C 10190-101A0 1091F
   10B39-10B3F 10D6E 10ED0-10ED8 11052-11065 11660-1166C 11FD5-11FDC 11FE1-11FF1 16FE2
   1CC00-1CEF0 1D1E9-1D241 1D245 1D300-1D356 1EEF0-1F12F 1F16D-1F16F 1F1AD 1F260-1FBFA"

/-- Characters without a shape. -/
def boundaryRanges : CodeRanges := .ofText "0-8 E-1B 7F 200C-200D"

/-- Marks that count as letters all the same. -/
def letterMarkRanges : CodeRanges := .ofText "CBF CC6 11A07-11A08 11C3F"

/-- The kinds other than letters that run to the right, each with its characters. -/
def bidiTable : List (Bidi × CodeRanges) :=
  [(.left, leftRanges), (.arabic, arabicRanges), (.arabicNumber, arabicNumberRanges),
   (.european, europeanRanges), (.sign, signRanges), (.neutral, neutralRanges),
   (.boundary, boundaryRanges), (.right, letterMarkRanges), (.mark, nonspacingRanges)]

/-- The kind of a character. -/
def bidiOf (c : Char) : Bidi :=
  match bidiTable.find? fun entry => CodeRanges.holds c.toNat entry.2 with
  | some (kind, _) => kind
  | none => .right

/-! ## Labels -/

/-- Whether a kind runs to the left. Numbers of Arabic texts do, as far as other labels
are concerned. -/
def Bidi.runsLeft : Bidi → Bool
  | .left | .arabic | .arabicNumber => true
  | _ => false

/-- What may stand in a label that runs to the right. -/
def Bidi.fitsRight : Bidi → Bool
  | .right | .european | .sign | .neutral | .boundary | .mark => true
  | .left | .arabic | .arabicNumber => false

/-- What may stand in a label that runs to the left. -/
def Bidi.fitsLeft : Bidi → Bool
  | .right => false
  | _ => true

/-- What a label that runs to the right may end with. -/
def Bidi.endsRight : Bidi → Bool
  | .right | .european => true
  | _ => false

/-- What a label that runs to the left may end with. -/
def Bidi.endsLeft : Bidi → Bool
  | .left | .arabic | .european | .arabicNumber => true
  | _ => false

/-- The last kind of a label that is no mark. -/
def lastKind? (kinds : List Bidi) : Option Bidi := (kinds.reverse.dropWhile (· == .mark)).head?

/-- Whether the characters of a label, by their kinds, run one way. A label that runs to
the left has numbers of one sort at most. -/
def runsOneWay (kinds : List Bidi) : Bool :=
  match kinds with
  | [] => true
  | .right :: _ =>
    kinds.all Bidi.fitsRight && ((lastKind? kinds).map Bidi.endsRight).getD false
  | .left :: _ | .arabic :: _ =>
    kinds.all Bidi.fitsLeft && ((lastKind? kinds).map Bidi.endsLeft).getD false
      && !(kinds.contains .european && kinds.contains .arabicNumber)
  | _ => false

/-- Whether the labels of a name go together. -/
def directionsFit (labels : List (List Char)) : Bool :=
  let kinds := labels.map fun label => label.map bidiOf
  !(kinds.any fun label => label.any Bidi.runsLeft) || kinds.all runsOneWay

/-! ## What fits -/

/-- **Nothing in a label that runs to the right runs to the left.** -/
theorem not_runsLeft_of_fitsRight {k : Bidi} (h : k.fitsRight = true) : k.runsLeft = false := by
  cases k <;> simp_all [Bidi.fitsRight, Bidi.runsLeft]

/-- A name without characters that run to the left is never in the way. -/
theorem directionsFit_of_not_runsLeft {labels : List (List Char)}
    (h : ∀ label ∈ labels, ∀ c ∈ label, (bidiOf c).runsLeft = false) :
    directionsFit labels = true := by
  simp only [directionsFit, Bool.or_eq_true, Bool.not_eq_true', List.any_eq_false, List.mem_map]
  refine Or.inl ?_
  rintro _ ⟨label, mem, rfl⟩
  simp only [List.any_eq_true, List.mem_map, not_exists, not_and, Bool.not_eq_true]
  rintro _ ⟨c, inside, rfl⟩
  exact h label mem c inside

end KeyedLocks.Domain
