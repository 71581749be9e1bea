import RowFilter.Text.Cluster.Table

/-!
# Character clusters

What a reader takes for one character may be several: a letter with its marks, a pair of regional
indicators, a joined sequence of pictographs, a Hangul syllable spelt out. `clusters` cuts a text
into such units. Conjuncts of Indic scripts, which know no case, are left apart.

Headline: `flatten_clusters`: the units, put together again, are the text.
-/

namespace RowFilter.Text

/-- Line ends and other controls, which stand alone. -/
def isControl (c : Char) : Bool := c == '\r' || c == '\n' || controlRanges.has c

/-- The joiner of pictographs. -/
def joiner : Char := Char.ofNat 0x200D

/-- Marks and modifiers that extend the character before them. -/
def isExtending (c : Char) : Bool :=
  extendRanges.has c || (decide (0x1F3FB ≤ c.toNat) && decide (c.toNat ≤ 0x1F3FF))

/-- A half of a flag. -/
def isRegional (c : Char) : Bool := decide (0x1F1E6 ≤ c.toNat) && decide (c.toNat ≤ 0x1F1FF)

/-- The kinds of Hangul letters and syllables. -/
inductive Hangul where
  | lead
  | vowel
  | trail
  | open
  | closed
  deriving DecidableEq

/-- The kind of a Hangul character; the Kirat Rai vowels combine in the same way. -/
def Hangul.ofChar? (c : Char) : Option Hangul :=
  let n := c.toNat
  if (0x1100 ≤ n ∧ n ≤ 0x115F) ∨ (0xA960 ≤ n ∧ n ≤ 0xA97C) then some .lead
  else if (0x1160 ≤ n ∧ n ≤ 0x11A7) ∨ (0xD7B0 ≤ n ∧ n ≤ 0xD7C6) ∨ n = 0x16D63 ∨
      (0x16D67 ≤ n ∧ n ≤ 0x16D6A) then some .vowel
  else if (0x11A8 ≤ n ∧ n ≤ 0x11FF) ∨ (0xD7CB ≤ n ∧ n ≤ 0xD7FB) then some .trail
  else if 0xAC00 ≤ n ∧ n ≤ 0xD7A3 then some (if (n - 0xAC00) % 28 = 0 then .open else .closed)
  else none

/-- Whether a syllable goes on from one Hangul character to the next. -/
def Hangul.joins : Hangul → Hangul → Bool
  | .lead, .trail => false
  | .lead, _ => true
  | .open, .vowel | .vowel, .vowel => true
  | .open, .trail | .vowel, .trail | .closed, .trail | .trail, .trail => true
  | _, _ => false

/-- A cluster, its last character first, that ends in a pictograph with its extensions and a
joiner. -/
def awaitsPictograph : List Char → Bool
  | [] => false
  | c :: before =>
    c == joiner &&
      match before.dropWhile isExtending with
      | p :: _ => pictographRanges.has p
      | [] => false

/-- Whether a character belongs to the cluster before it, whose last character comes first. -/
def staysWith (cluster : List Char) (c : Char) : Bool :=
  match cluster with
  | [] => true
  | p :: _ =>
    if p == '\r' && c == '\n' then true
    else if isControl p || isControl c then false
    else if leadingRanges.has p then true
    else if c.toNat < 128 then false
    else if isExtending c || c == joiner || spacingRanges.has c then true
    else if isRegional p && isRegional c then (cluster.takeWhile isRegional).length % 2 == 1
    else if awaitsPictograph cluster && pictographRanges.has c then true
    else
      match Hangul.ofChar? p, Hangul.ofChar? c with
      | some a, some b => a.joins b
      | _, _ => false

/-- The clusters of a text, given the open one with its last character first. -/
def clustersFrom (cluster : List Char) : List Char → List (List Char)
  | [] => [cluster.reverse]
  | c :: cs =>
    if staysWith cluster c then clustersFrom (c :: cluster) cs
    else cluster.reverse :: clustersFrom [c] cs

/-- The clusters of a text. -/
def clusters : List Char → List (List Char)
  | [] => []
  | c :: cs => clustersFrom [c] cs

theorem flatten_clustersFrom (cluster cs : List Char) :
    (clustersFrom cluster cs).flatten = cluster.reverse ++ cs := by
  induction cs generalizing cluster with
  | nil => simp [clustersFrom]
  | cons c cs ih =>
    unfold clustersFrom
    split <;> simp [ih]

/-- The clusters, put together again, are the text. -/
theorem flatten_clusters (cs : List Char) : (clusters cs).flatten = cs := by
  cases cs with
  | nil => rfl
  | cons c cs => simp [clusters, flatten_clustersFrom]

end RowFilter.Text
