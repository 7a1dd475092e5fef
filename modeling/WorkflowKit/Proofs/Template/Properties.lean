/-
# Property text

Property text is written line by line: a line holds a pair of a key and a value, or nothing but
blanks, or a comment (`Line`).  However a list of pairs is written, the table that is read from the
text has the keys in the order in which they occur first, each with its last value
(`propertiesOfText_of_written`).

The first separator of a line is the one that was written behind the key, since the key holds none:
the value may hold as many as it likes.

A file gives the properties of its text (`propertiesOfFile_eq`): reading a file changes how lines
end, but not the lines.

Property text is a string, as it comes out of a file.  A `Text` with lone halves of pairs, which no
file holds, is left out.
-/

import WorkflowKit.Proofs.Text.Line
import WorkflowKit.Proofs.Value.Entries
import WorkflowKit.Template.Properties

namespace WorkflowKit
namespace Template

open Text (isBlank isLineEnd strip lines IsEnding)

/-- Blanks inside a line. -/
def IsGap (cs : List Char) : Prop := ∀ c ∈ cs, isBlank c = true ∧ isLineEnd c = false

instance (cs : List Char) : Decidable (IsGap cs) :=
  decidable_of_iff (cs.all fun c => isBlank c && !isLineEnd c) (by simp [IsGap])

/-- A text that holds no end of line, and neither begins nor ends with a blank. -/
structure IsTrimmed (cs : List Char) : Prop where
  /-- It stands in one line. -/
  inline : ∀ c ∈ cs, isLineEnd c = false
  /-- It begins with no blank. -/
  head : ∀ c ∈ cs.head?, isBlank c = false
  /-- It ends with no blank. -/
  last : ∀ c ∈ cs.getLast?, isBlank c = false

theorem isTrimmed_iff {cs : List Char} :
    (cs.all (!isLineEnd ·) && cs.head?.all (!isBlank ·) && cs.getLast?.all (!isBlank ·)) = true ↔
      IsTrimmed cs := by
  simp only [Bool.and_eq_true, List.all_eq_true, Option.all_eq_true, Bool.not_eq_true']
  exact ⟨fun ⟨⟨inline, head⟩, last⟩ => ⟨inline, head, last⟩, fun h => ⟨⟨h.inline, h.head⟩, h.last⟩⟩

instance (cs : List Char) : Decidable (IsTrimmed cs) := decidable_of_iff _ isTrimmed_iff

/-- A text that can be written as a key. -/
structure IsKey (cs : List Char) : Prop extends IsTrimmed cs where
  /-- It is not empty. -/
  ne_nil : cs ≠ []
  /-- It holds no separator. -/
  plain : ∀ c ∈ cs, c ≠ '=' ∧ c ≠ ':'
  /-- It does not begin like a comment. -/
  start : ∀ c ∈ cs.head?, c ≠ '#' ∧ c ≠ '!'

theorem isKey_iff {cs : List Char} :
    (IsTrimmed cs ∧ cs ≠ [] ∧ (cs.all fun c => c ≠ '=' ∧ c ≠ ':') ∧
      cs.head?.all fun c => c ≠ '#' ∧ c ≠ '!') ↔ IsKey cs := by
  simp only [List.all_eq_true, Option.all_eq_true, decide_eq_true_eq]
  exact ⟨fun ⟨trimmed, ne_nil, plain, start⟩ => ⟨trimmed, ne_nil, plain, start⟩,
    fun h => ⟨h.toIsTrimmed, h.ne_nil, h.plain, h.start⟩⟩

instance (cs : List Char) : Decidable (IsKey cs) := decidable_of_iff _ isKey_iff

/-- A line without its end, and the pair that is written in it. -/
inductive Line : Option (String × String) → List Char → Prop
  /-- Nothing but blanks. -/
  | blank {gap : List Char} (isGap : IsGap gap) : Line none gap
  /-- A comment. -/
  | comment {indent words : List Char} {c : Char} (isGap : IsGap indent) (mark : c = '#' ∨ c = '!')
    (inline : ∀ d ∈ words, isLineEnd d = false) : Line none (indent ++ c :: words)
  /-- A key, a separator and a value, with blanks around them. -/
  | pair {indent before after trail : List Char} {c : Char} (key value : String)
    (indentIsGap : IsGap indent) (beforeIsGap : IsGap before) (separator : c = '=' ∨ c = ':')
    (afterIsGap : IsGap after) (trailIsGap : IsGap trail) :
    Line (some (key, value))
      (indent ++ (key.toList ++ before ++ c :: (after ++ value.toList ++ trail)))

/-- A text in which pairs are written line by line, in their order. -/
inductive Written : List (String × String) → List Char → Prop
  /-- A last line without an end.  It may be empty. -/
  | last {e : Option (String × String)} {cs : List Char} (line : Line e cs) : Written e.toList cs
  /-- A line with its end, and the lines behind it. -/
  | line {e : Option (String × String)} {es : List (String × String)} {cs ending rest : List Char}
    (line : Line e cs) (isEnding : IsEnding ending) (written : Written es rest) :
    Written (e.toList ++ es) (cs ++ (ending ++ rest))

variable {c d : Char} {cs kb w : List Char}

/-! ### The cut of a line -/

theorem separator?_self (hne : kb ≠ []) (hkb : ∀ d ∈ kb, d ≠ c) (w : List Char) :
    separator? c (kb ++ c :: w) = some kb.length := by
  have htake : (kb ++ c :: w).takeWhile (· ≠ c) = kb := by
    rw [List.takeWhile_append_of_pos (by simpa using hkb), List.takeWhile_cons_of_neg (by simp),
      List.append_nil]
  rw [separator?, htake, if_pos]
  simp [List.length_pos_iff.2 hne]

/-- Another separator comes later, if at all. -/
theorem separator?_other (hkb : ∀ e ∈ kb, e ≠ d) (hd : c ≠ d) (w : List Char) {n : ℕ}
    (h : separator? d (kb ++ c :: w) = some n) : kb.length < n := by
  have htake : (kb ++ c :: w).takeWhile (· ≠ d) = kb ++ c :: w.takeWhile (· ≠ d) := by
    rw [List.takeWhile_append_of_pos (by simpa using hkb), List.takeWhile_cons_of_pos (by simpa)]
  rw [separator?, htake] at h
  obtain ⟨-, rfl⟩ := by simpa using h
  simp

/-- A line is cut at the separator behind its key. -/
theorem cut?_eq (hne : kb ≠ []) (hkb : ∀ d ∈ kb, d ≠ '=' ∧ d ≠ ':') (hc : c = '=' ∨ c = ':')
    (w : List Char) : cut? (kb ++ c :: w) = some kb.length := by
  obtain rfl | rfl := hc
  · rw [cut?, separator?_self hne fun d hd => (hkb d hd).1]
    cases hother : separator? ':' (kb ++ '=' :: w) with
    | none => rfl
    | some n =>
      have hlt := separator?_other (fun d hd => (hkb d hd).2) (by decide) w hother
      exact congrArg some (Nat.min_eq_left hlt.le)
  · rw [cut?, separator?_self hne fun d hd => (hkb d hd).2]
    cases hother : separator? '=' (kb ++ ':' :: w) with
    | none => rfl
    | some n =>
      have hlt := separator?_other (fun d hd => (hkb d hd).1) (by decide) w hother
      exact congrArg some (Nat.min_eq_right hlt.le)

/-! ### The pair of a line -/

theorem isBlank_of_separator (hc : c = '=' ∨ c = ':') : isBlank c = false := by
  obtain rfl | rfl := hc <;> decide

theorem ne_of_isBlank_of_separator (hd : isBlank d = true) : d ≠ '=' ∧ d ≠ ':' := by
  constructor <;> rintro rfl <;> exact absurd hd (by decide)

/-- A line whose characters without the blanks around are a key, a separator and what is behind. -/
theorem property?_of_strip {line before : List Char} {key value : String} (hkey : IsKey key.toList)
    (hbefore : IsGap before) (hc : c = '=' ∨ c = ':')
    (hline : strip line = key.toList ++ before ++ c :: w) (hw : strip w = value.toList) :
    property? line = some (key, value) := by
  have hcut : cut? (key.toList ++ before ++ c :: w) = some (key.toList ++ before).length := by
    refine cut?_eq (by simp [hkey.ne_nil]) (fun d hd => ?_) hc w
    obtain hd | hd := List.mem_append.1 hd
    · exact hkey.plain d hd
    · exact ne_of_isBlank_of_separator (hbefore d hd).1
  have hstrip : strip ([] ++ key.toList ++ before) = key.toList :=
    Text.strip_between (by simp) (fun d hd => (hbefore d hd).1) hkey.head hkey.last
  obtain ⟨k, ks, hk⟩ := List.exists_cons_of_ne_nil hkey.ne_nil
  have hstart : ¬ (k = '#' ∨ k = '!') := not_or.2 (hkey.start k (by rw [hk]; rfl))
  have hcons : strip line = k :: (ks ++ before ++ c :: w) := by rw [hline, hk]; rfl
  simp only [property?, hcons]
  rw [if_neg hstart, ← hcons, hline, hcut, Option.map_some, List.take_left,
    List.drop_length_add_append, List.drop_succ_cons, List.drop_zero, hw,
    ← List.nil_append key.toList, hstrip, String.ofList_toList, String.ofList_toList]

/-- A line of blanks holds no pair. -/
theorem property?_gap (h : IsGap cs) : property? cs = none := by
  have hstrip : strip ([] ++ [] ++ cs) = [] :=
    Text.strip_between (by simp) (fun c hc => (h c hc).1) (by simp) (by simp)
  have hnil : strip cs = [] := hstrip
  simp only [property?, hnil]

/-- A comment holds no pair. -/
theorem property?_comment {indent : List Char} (h : IsGap indent) (hc : c = '#' ∨ c = '!')
    (words : List Char) : property? (indent ++ c :: words) = none := by
  have hink : isBlank c = false := by obtain rfl | rfl := hc <;> decide
  obtain ⟨cs, hcs⟩ := List.head?_eq_some_iff.1
    (Text.head?_strip (fun d hd => (h d hd).1) hink words)
  simp only [property?, hcs, if_pos hc]

/-- A line with a pair holds this pair. -/
theorem property?_pair {indent before after trail : List Char} {key value : String}
    (hkey : IsKey key.toList) (hvalue : IsTrimmed value.toList) (hindent : IsGap indent)
    (hbefore : IsGap before) (hc : c = '=' ∨ c = ':') (hafter : IsGap after)
    (htrail : IsGap trail) :
    property? (indent ++ (key.toList ++ before ++ c :: (after ++ value.toList ++ trail))) =
      some (key, value) := by
  have hhead (w : List Char) : ∀ d ∈ (key.toList ++ before ++ c :: w).head?, isBlank d = false := by
    intro d hd
    rw [List.append_assoc, List.head?_append_of_ne_nil _ hkey.ne_nil] at hd
    exact hkey.head d hd
  by_cases hempty : value.toList = []
  · -- The blanks behind the separator are at the end of the line.
    have hblank : ∀ d ∈ after ++ trail, isBlank d = true := fun d hd =>
      (List.mem_append.1 hd).elim (fun hd => (hafter d hd).1) fun hd => (htrail d hd).1
    have hstrip : strip (indent ++ (key.toList ++ before ++ [c]) ++ (after ++ trail)) =
        key.toList ++ before ++ [c] :=
      Text.strip_between (fun d hd => (hindent d hd).1) hblank (hhead [])
        (by simp [isBlank_of_separator hc])
    have hw : strip [] = value.toList := by rw [hempty]; rfl
    refine property?_of_strip hkey hbefore hc ?_ hw
    simpa [hempty] using hstrip
  · have hlast : (key.toList ++ before ++ c :: (after ++ value.toList)).getLast? =
        value.toList.getLast? := by
      rw [← List.cons_append, ← List.append_assoc, List.getLast?_append_of_ne_nil _ hempty]
    have hstrip :
        strip (indent ++ (key.toList ++ before ++ c :: (after ++ value.toList)) ++ trail) =
          key.toList ++ before ++ c :: (after ++ value.toList) :=
      Text.strip_between (fun d hd => (hindent d hd).1) (fun d hd => (htrail d hd).1)
        (hhead _) fun d hd => hvalue.last d (hlast ▸ hd)
    have hw : strip (after ++ value.toList ++ []) = value.toList :=
      Text.strip_between (fun d hd => (hafter d hd).1) (by simp) hvalue.head hvalue.last
    rw [List.append_nil] at hw
    refine property?_of_strip hkey hbefore hc ?_ hw
    simpa using hstrip

/-! ### The pairs of a text -/

/-- A pair that can be written in a line. -/
def IsWritable (p : String × String) : Prop := IsKey p.1.toList ∧ IsTrimmed p.2.toList

instance (p : String × String) : Decidable (IsWritable p) :=
  inferInstanceAs (Decidable (_ ∧ _))

variable {e : Option (String × String)} {es : List (String × String)}

theorem Line.inline (h : Line e cs) (he : ∀ p ∈ e, IsWritable p) :
    ∀ c ∈ cs, isLineEnd c = false := by
  cases h with
  | blank isGap => exact fun c hc => (isGap c hc).2
  | comment isGap mark inline =>
    rw [List.forall_mem_append, List.forall_mem_cons]
    refine ⟨fun c hc => (isGap c hc).2, ?_, inline⟩
    obtain rfl | rfl := mark <;> decide
  | pair key value indentIsGap beforeIsGap separator afterIsGap trailIsGap =>
    obtain ⟨hkey, hvalue⟩ := he _ rfl
    simp only [List.forall_mem_append, List.forall_mem_cons]
    refine ⟨fun c hc => (indentIsGap c hc).2, ⟨hkey.inline, fun c hc => (beforeIsGap c hc).2⟩, ?_,
      ⟨fun c hc => (afterIsGap c hc).2, hvalue.inline⟩, fun c hc => (trailIsGap c hc).2⟩
    obtain rfl | rfl := separator <;> decide

/-- The pair of a line is the one that is written in it. -/
theorem Line.property?_eq (h : Line e cs) (he : ∀ p ∈ e, IsWritable p) : property? cs = e := by
  cases h with
  | blank isGap => exact property?_gap isGap
  | comment isGap mark inline => exact property?_comment isGap mark _
  | pair key value indentIsGap beforeIsGap separator afterIsGap trailIsGap =>
    obtain ⟨hkey, hvalue⟩ := he _ rfl
    exact property?_pair hkey hvalue indentIsGap beforeIsGap separator afterIsGap trailIsGap

/-- **The lines of a text hold the pairs that are written in it.** -/
theorem Written.filterMap_lines (h : Written es cs) (hes : ∀ p ∈ es, IsWritable p) :
    (lines cs).filterMap property? = es := by
  induction h with
  | last line =>
    have he := fun p hp => hes p (Option.mem_toList.2 hp)
    rw [Text.filterMap_lines_inline rfl (line.inline he), line.property?_eq he]
  | line line isEnding _ ih =>
    rw [List.forall_mem_append] at hes
    have he := fun p hp => hes.1 p (Option.mem_toList.2 hp)
    rw [Text.filterMap_lines rfl (line.inline he) isEnding, line.property?_eq he, ih hes.2]

/-- **Property text gives back what was written.**  However pairs are written line by line, the
table has their keys in the order in which they occur first, each with its last value. -/
theorem propertiesOfText_of_written {pairs : List (String × String)} {text : String}
    (hpairs : ∀ p ∈ pairs, IsWritable p) (h : Written pairs text.toList) :
    (propertiesOfText text).map Prod.fst = (pairs.map Prod.fst).eraseDups ∧
      ∀ key, lookup? key (propertiesOfText text) = lookup? key pairs.reverse := by
  rw [propertiesOfText, h.filterMap_lines hpairs]
  exact ⟨keys_distinctEntries pairs, fun key => lookup?_distinctEntries key pairs⟩

/-- Two lines have the key `a`, which keeps its first place and gets its last value; the value of
`b` holds separators. -/
theorem propertiesOfText_of_written_repeated :
    let text := "#shop\n  a = 1\r\n\t\rb:x=y#z\ra\t: 2"
    let pairs := [("a", "1"), ("b", "x=y#z"), ("a", "2")]
    (∀ p ∈ pairs, IsWritable p) ∧ Written pairs text.toList ∧
      (propertiesOfText text).map Prod.fst = ["a", "b"] ∧
      lookup? "a" (propertiesOfText text) = some "2" ∧
      lookup? "b" (propertiesOfText text) = some "x=y#z" := by
  intro text pairs
  have hpairs : ∀ p ∈ pairs, IsWritable p := by decide
  have hnone : IsGap [] := by decide
  have hspace : IsGap [' '] := by decide
  have hspaces : IsGap [' ', ' '] := by decide
  have htab : IsGap ['\t'] := by decide
  have hwords : IsTrimmed "shop".toList := by decide
  have hcomment : Line none "#shop".toList := .comment hnone (.inl rfl) hwords.inline
  have hfirst : Line (some ("a", "1")) "  a = 1".toList :=
    .pair "a" "1" hspaces hspace (.inl rfl) hspace hnone
  have hother : Line (some ("b", "x=y#z")) "b:x=y#z".toList :=
    .pair "b" "x=y#z" hnone hnone (.inr rfl) hnone hnone
  have hagain : Line (some ("a", "2")) "a\t: 2".toList :=
    .pair "a" "2" hnone htab (.inr rfl) hspace hnone
  have htext : text.toList = "#shop".toList ++ (['\n'] ++ ("  a = 1".toList ++ (['\r', '\n'] ++
      (['\t'] ++ (['\r'] ++ ("b:x=y#z".toList ++ (['\r'] ++ "a\t: 2".toList))))))) := by decide
  have hwritten : Written pairs text.toList := by
    rw [htext]
    exact .line hcomment (.inr ⟨'\n', rfl, rfl⟩) <| .line hfirst (.inl rfl) <|
      .line (.blank htab) (.inr ⟨'\r', rfl, rfl⟩) <| .line hother (.inr ⟨'\r', rfl, rfl⟩) <|
      .last hagain
  obtain ⟨hkeys, hlookup⟩ := propertiesOfText_of_written hpairs hwritten
  exact ⟨hpairs, hwritten, hkeys, hlookup "a", hlookup "b"⟩

/-- **A file gives the properties of its text.** Opening a file changes how its lines end before
they are cut, but not which lines there are; so the properties are the same, for every text. -/
theorem propertiesOfFile_eq (text : String) : propertiesOfFile text = propertiesOfText text := by
  rw [propertiesOfFile, propertiesOfText, propertiesOfText, String.toList_ofList,
    Text.lines_universalNewlines]

end Template
end WorkflowKit
