import NodeGateway.Text.CombiningClass
import NodeGateway.Text.Mark

/-!
# Joiners in Domain Names

Letters of some scripts join their neighbours and change their shape with them. Two invisible
characters say that letters do, or do not, join. In a name they may only stand where they make a
difference: behind a sign that takes the vowel from a letter, and the second of them also between
letters that would join otherwise.

Only code points that can stand in a folded domain name are told apart rightly; the tables run
across the others.

## Main definitions

* `Joining.isJoiningRight` and `Joining.isJoiningLeft`;
* `Joining.placesAreRight`, for a label.
-/

namespace NodeGateway.Joining

open Text (CodeTable)

/-- The letters that join on both sides. -/
def dualTable : CodeTable := .ofText "
  620 626 628 62A-62E 633-63F 641-647 649-64A 66E-66F 679-687 69A-6BF 6C1-6C2 6CC 6CE 6D0-6D1
  6FA-6FC 6FF 712-714 71A-71D 71F-727 729 72B 72D-72E 74E-758 75C-76A 76D-770 772 775-777 77A-77F
  7CA-7EA 841-845 848 84A-853 855 860 862-865 868 886 889-88D 88F 8A0-8A9 8AF-8B0 8B3-8B8 8BA-8C8
  1807 1820-1878 1887-18A8 18AA A840-A871 10AC0-10AC4 10AD3-10AD6 10AD8-10ADC 10ADE-10AE0
  10AEB-10AEE 10B80 10B82 10B86-10B88 10B8A-10B8B 10B8D 10B90 10BAD-10BAE 10D01-10D21 10D23
  10EC3-10EC4 10EC6-10EC7 10F30-10F32 10F34-10F44 10F51-10F53 10F70-10F73 10F76-10F81 10FB0
  10FB2-10FB3 10FB8 10FBB-10FBC 10FBE-10FBF 10FC1 10FC4 10FCA 1E922-1E943"

/-- The letters that join what stands behind them only. -/
def leftTable : CodeTable := .ofText "
  A872 10ACD 10AD7 10D00 10FCB"

/-- The letters that join what stands in front of them only. -/
def rightTable : CodeTable := .ofText "
  622-625 627 629 62F-632 648 671-673 688-699 6C0 6C3-6CB 6CD 6CF 6D2-6D3 6D5 6EE-6EF 710 715-719
  71E 728 72A 72C 72F 74D 759-75B 76B-76C 771 773-774 778-779 840 846-847 849 854 856-858 867
  869-882 88E 8AA-8AC 8AE 8B1-8B2 8B9 10AC5 10AC7 10AC9-10ACA 10ACE-10AD2 10ADD 10AE1 10AE4 10AEF
  10B81 10B83-10B85 10B89 10B8C 10B8E-10B8F 10B91 10BA9-10BAC 10D22 10EC2 10F33 10F54 10F74-10F75
  10FB4-10FB6 10FB9-10FBA 10FBD 10FC2-10FC3 10FC9"

/-- The invisible character that joins its neighbours. -/
def joiner : Nat := 0x200D

/-- The invisible character that keeps its neighbours from joining. -/
def nonJoiner : Nat := 0x200C

/-- The only letter that joining looks through, as it does through nonspacing marks. -/
def nasalizationLetter : Nat := 0x1E94B

/-- Whether joining looks through a code point to the next one. -/
def isTransparent (n : Nat) : Bool := Text.isNonspacing n || n = nasalizationLetter

/-- Whether a letter joins what stands behind it. -/
def joinsBehind (n : Nat) : Bool := dualTable.contains n || leftTable.contains n

/-- Whether a letter joins what stands in front of it. -/
def joinsInFront (n : Nat) : Bool := dualTable.contains n || rightTable.contains n

/-- The first code point that joining does not look through, if it has a property. -/
def nextSatisfies (property : Nat → Bool) (text : List Nat) : Bool :=
  (text.find? fun n => !isTransparent n).any property

/-- Whether a code point may stand between two texts, the first of them read backwards. -/
def mayStand (before : List Nat) (n : Nat) (behind : List Nat) : Bool :=
  if n != joiner && n != nonJoiner then true
  else if before.head?.any (Text.combiningClass · = Text.vowelKillerClass) then true
  else n = nonJoiner && nextSatisfies joinsBehind before && nextSatisfies joinsInFront behind

/-- Whether the joiners of a text may stand where they do, given the text in front of it, read
backwards. -/
def placesAreRightBehind (before : List Nat) : List Nat → Bool
  | [] => true
  | n :: behind => mayStand before n behind && placesAreRightBehind (n :: before) behind

/-- Whether the joiners of a label may stand where they do. -/
def placesAreRight (label : List Nat) : Bool := placesAreRightBehind [] label

end NodeGateway.Joining
