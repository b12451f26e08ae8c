/-
What a writer writes is balanced.

Calls on a writer may come in any order: a record may be left open, closed twice, or closed by a value inside it. Still
the writer knows how many parentheses are open: it writes one where it puts a record on its stack and one where it takes
a record off. To speak of every moment, also of those inside the value of a field, calls are taken apart into strokes
(`Record.Call.strokes`): a text, an opening, what stands between two fields, a closing. A writer does the same by the
strokes as by the calls (`Record.Writer.calls_eq_after`).

- `Record.Writer.Level.stroke`, `Record.Writer.Level.after`: one stroke, and any number of strokes, keep the stack as
  high as the text is deep, and the text from ever closing more than it opened.
- `Record.Writer.Level.finish`: closing what is open makes the text balanced.
- `Record.finish_balanced`: so it is after any strokes of any calls whose words have no parentheses.
-/
import Mathlib.Tactic
import TokenScanner.Record.Writer

namespace TokenScanner

/-! ## Parentheses of a text -/

namespace Text

/-- the opening parentheses of a text less the closing ones -/
def depth (text : List Char) : Int :=
  text.count '(' - text.count ')'

/-- no part at the start of the text closes more than it opens -/
def Above (text : List Char) : Prop :=
  ∀ front, front <+: text → 0 ≤ depth front

/-- the text closes what it opens, and nothing else -/
structure Balanced (text : List Char) : Prop where
  depth_eq : depth text = 0
  above : Above text

/-- the text has no parentheses -/
def Bare (text : List Char) : Prop :=
  '(' ∉ text ∧ ')' ∉ text

instance (text : List Char) : Decidable (Bare text) :=
  inferInstanceAs (Decidable (_ ∧ _))

variable {a b front text : List Char}

theorem depth_append (a b : List Char) : depth (a ++ b) = depth a + depth b := by
  simp only [depth, List.count_append]
  omega

theorem depth_closings (n : Nat) : depth (List.replicate n ')') = -n := by
  simp [depth, List.count_replicate]

theorem Bare.depth_eq (h : Bare text) : depth text = 0 := by
  simp only [depth, List.count_eq_zero.2 h.1, List.count_eq_zero.2 h.2]
  rfl

theorem Bare.of_prefix (h : Bare text) (hf : front <+: text) : Bare front :=
  ⟨fun hm => h.1 (hf.subset hm), fun hm => h.2 (hf.subset hm)⟩

theorem above_nil : Above [] := by
  intro front hf
  rw [List.prefix_nil.1 hf]
  exact le_rfl

theorem Above.depth_nonneg (h : Above text) : 0 ≤ depth text :=
  h text List.prefix_rfl

/-- more text keeps above where none of its parts goes deeper than the text before it is -/
theorem Above.append (h : Above a) (hb : ∀ part, part <+: b → 0 ≤ depth a + depth part) : Above (a ++ b) := by
  intro front hf
  -- the part ends in the first text or in the second
  rcases List.prefix_or_prefix_of_prefix hf (List.prefix_append a b) with inside | ⟨part, rfl⟩
  · exact h front inside
  · have behind : part <+: b := (List.prefix_append_right_inj a).1 hf
    rw [depth_append]
    exact hb part behind

theorem Above.append_bare (h : Above a) (hb : Bare b) : Above (a ++ b) := by
  apply h.append
  intro part hp
  calc 0 ≤ depth a := h.depth_nonneg
    _ = depth a + depth part := by rw [(hb.of_prefix hp).depth_eq, add_zero]

theorem Above.append_opening (h : Above a) : Above (a ++ ['(']) := by
  apply h.append
  intro part hp
  have nonneg := h.depth_nonneg
  rcases List.prefix_cons_iff.1 hp with rfl | ⟨rest, rfl, hr⟩
  · simpa [depth] using nonneg
  · rw [List.prefix_nil.1 hr]
    have one : depth ['('] = 1 := rfl
    omega

/-- as many closing parentheses as are open may follow -/
theorem Above.append_closings {n : Nat} (h : Above a) (hn : (n : Int) ≤ depth a) :
    Above (a ++ List.replicate n ')') := by
  apply h.append
  intro part hp
  obtain ⟨short, same⟩ := List.prefix_replicate_iff.1 hp
  rw [same, depth_closings]
  omega

end Text

namespace Record

open Text

/-! ## Strokes -/

/-- the smallest pieces of what a writer does -/
inductive Stroke where
  /-- a text as it is -/
  | write (text : String)
  /-- the parenthesis that opens a record -/
  | opening
  /-- what stands between two fields of a record -/
  | separating
  /-- the parenthesis that closes a record, if one is open -/
  | closing
  deriving DecidableEq, Repr

/-- a stroke writes no parentheses but those that it is there for -/
def Stroke.Bare : Stroke → Prop
  | .write text => Text.Bare text.toList
  | _ => True

/-- the writer after a stroke -/
def Writer.stroke (w : Writer) : Stroke → Writer
  | .write text => w.write text
  | .opening => ⟨w.out ++ "(", false :: w.opened⟩
  | .separating => w.separate
  | .closing => w.close

/-- the strokes before the value of a field -/
def labelStrokes (key : String) : List Stroke :=
  [.separating, .write key, .write ": "]

mutual

/-- the strokes of a call -/
def Call.strokes : Call → List Stroke
  | .begin name => [.write name, .opening]
  | .pair key value => labelStrokes key ++ [.write value]
  | .nested key item => labelStrokes key ++ strokes item
  | .list key items => labelStrokes key ++ (.write "[" :: (itemStrokes items ++ [.write "]"]))
  | .close => [.closing]

/-- the strokes of some calls -/
def strokes : List Call → List Stroke
  | [] => []
  | c :: rest => c.strokes ++ strokes rest

/-- the strokes of the items of a list -/
def itemStrokes : List (List Call) → List Stroke
  | [] => []
  | item :: rest => strokes item ++ moreItemStrokes rest

/-- the strokes of the items that follow another -/
def moreItemStrokes : List (List Call) → List Stroke
  | [] => []
  | item :: rest => .write ", " :: strokes item ++ moreItemStrokes rest

end

mutual

/-- the names, keys and values of a call -/
def Call.words : Call → List String
  | .begin name => [name]
  | .pair key value => [key, value]
  | .nested key item => key :: words item
  | .list key items => key :: itemWords items
  | .close => []

/-- the names, keys and values of some calls -/
def words : List Call → List String
  | [] => []
  | c :: rest => c.words ++ words rest

/-- the names, keys and values of the items of a list -/
def itemWords : List (List Call) → List String
  | [] => []
  | item :: rest => words item ++ itemWords rest

end

/-! ## Strokes without parentheses -/

/-- no word of the list has parentheses -/
def AllBare (words : List String) : Prop :=
  ∀ word ∈ words, Text.Bare word.toList

/-- no stroke of the list writes parentheses but those that it is there for -/
def AllPlain (strokes : List Stroke) : Prop :=
  ∀ s ∈ strokes, s.Bare

theorem allPlain_nil : AllPlain [] :=
  List.forall_mem_nil _

theorem AllPlain.append {front back : List Stroke} (hf : AllPlain front) (hb : AllPlain back) :
    AllPlain (front ++ back) :=
  List.forall_mem_append.2 ⟨hf, hb⟩

theorem AllPlain.write {text : String} {rest : List Stroke} (hr : AllPlain rest) (bare : Text.Bare text.toList) :
    AllPlain (.write text :: rest) :=
  List.forall_mem_cons.2 ⟨bare, hr⟩

/-- a stroke in front that is no text -/
theorem AllPlain.sign {s : Stroke} {rest : List Stroke} (hr : AllPlain rest) (bare : s.Bare) : AllPlain (s :: rest) :=
  List.forall_mem_cons.2 ⟨bare, hr⟩

theorem allPlain_labelStrokes {key : String} (bare : Text.Bare key.toList) : AllPlain (labelStrokes key) := by
  have colon : Text.Bare ": ".toList := by decide
  refine AllPlain.sign ?_ trivial
  apply AllPlain.write _ bare
  exact allPlain_nil.write colon

mutual

/-- besides its words a call writes brackets, commas and colons, and parentheses only where it opens or closes -/
theorem Call.allPlain_strokes (c : Call) (h : AllBare c.words) : AllPlain c.strokes := by
  cases c with
  | begin name =>
    rw [Call.words] at h
    have bare := h name (List.mem_singleton_self name)
    apply AllPlain.write _ bare
    exact allPlain_nil.sign trivial
  | pair key value =>
    rw [Call.words] at h
    obtain ⟨hk, hv⟩ := List.forall_mem_cons.1 h
    apply (allPlain_labelStrokes hk).append
    exact allPlain_nil.write (hv value (List.mem_singleton_self value))
  | nested key item =>
    rw [Call.words] at h
    obtain ⟨hk, hi⟩ := List.forall_mem_cons.1 h
    exact (allPlain_labelStrokes hk).append (allPlain_strokes item hi)
  | list key items =>
    rw [Call.words] at h
    obtain ⟨hk, hi⟩ := List.forall_mem_cons.1 h
    have ends : Text.Bare "[".toList ∧ Text.Bare "]".toList := by decide
    apply (allPlain_labelStrokes hk).append
    apply AllPlain.write _ ends.1
    exact (allPlain_itemStrokes items hi).append (allPlain_nil.write ends.2)
  | close => exact allPlain_nil.sign trivial

theorem allPlain_strokes (cs : List Call) (h : AllBare (words cs)) : AllPlain (strokes cs) := by
  cases cs with
  | nil => exact allPlain_nil
  | cons c rest =>
    rw [words] at h
    obtain ⟨first, others⟩ := List.forall_mem_append.1 h
    exact (c.allPlain_strokes first).append (allPlain_strokes rest others)

theorem allPlain_itemStrokes (items : List (List Call)) (h : AllBare (itemWords items)) :
    AllPlain (itemStrokes items) := by
  cases items with
  | nil => exact allPlain_nil
  | cons item rest =>
    rw [itemWords] at h
    obtain ⟨first, others⟩ := List.forall_mem_append.1 h
    exact (allPlain_strokes item first).append (allPlain_moreItemStrokes rest others)

theorem allPlain_moreItemStrokes (items : List (List Call)) (h : AllBare (itemWords items)) :
    AllPlain (moreItemStrokes items) := by
  cases items with
  | nil => exact allPlain_nil
  | cons item rest =>
    rw [itemWords] at h
    obtain ⟨first, others⟩ := List.forall_mem_append.1 h
    have comma : Text.Bare ", ".toList := by decide
    apply AllPlain.append _ (allPlain_moreItemStrokes rest others)
    exact (allPlain_strokes item first).write comma

end

namespace Writer

/-- the writer after some strokes -/
def after (w : Writer) (strokes : List Stroke) : Writer :=
  strokes.foldl stroke w

theorem after_append (w : Writer) (front back : List Stroke) : w.after (front ++ back) = (w.after front).after back :=
  List.foldl_append

theorem after_cons (w : Writer) (s : Stroke) (rest : List Stroke) : w.after (s :: rest) = (w.stroke s).after rest :=
  rfl

theorem after_label (w : Writer) (key : String) : w.after (labelStrokes key) = w.label key :=
  rfl

mutual

theorem call_eq_after (w : Writer) (c : Call) : w.call c = w.after c.strokes := by
  cases c with
  | begin name => rfl
  | pair key value => rfl
  | nested key item => rw [call, Call.strokes, calls_eq_after _ item, after_append, after_label]
  | list key items =>
    rw [call, Call.strokes, items_eq_after _ items, after_append, after_label, after_cons, after_append]
    rfl
  | close => rfl

/-- **A writer does the same by strokes as by calls.** -/
theorem calls_eq_after (w : Writer) (cs : List Call) : w.calls cs = w.after (strokes cs) := by
  cases cs with
  | nil => rw [calls, strokes]; rfl
  | cons c rest => rw [calls, strokes, call_eq_after w c, calls_eq_after _ rest, after_append]

theorem items_eq_after (w : Writer) (items : List (List Call)) : w.items items = w.after (itemStrokes items) := by
  cases items with
  | nil => rw [Writer.items, itemStrokes]; rfl
  | cons item rest => rw [Writer.items, itemStrokes, calls_eq_after w item, moreItems_eq_after _ rest, after_append]

theorem moreItems_eq_after (w : Writer) (items : List (List Call)) :
    w.moreItems items = w.after (moreItemStrokes items) := by
  cases items with
  | nil => rw [moreItems, moreItemStrokes]; rfl
  | cons item rest =>
    rw [moreItems, moreItemStrokes, calls_eq_after _ item, moreItems_eq_after _ rest, List.cons_append, after_cons,
      after_append]
    rfl

end

/-- between two fields no record is opened or closed -/
theorem separate_length (w : Writer) : w.separate.opened.length = w.opened.length := by
  obtain ⟨out, opened⟩ := w
  cases opened with
  | nil => rfl
  | cons mark outer => cases mark <;> rfl

/-- what stands between two fields is nothing, or a comma and a space -/
theorem separate_out (w : Writer) : w.separate.out = w.out ∨ w.separate.out = (w.write ", ").out := by
  obtain ⟨out, opened⟩ := w
  cases opened with
  | nil => exact Or.inl rfl
  | cons mark outer =>
    cases mark with
    | false => exact Or.inl rfl
    | true => exact Or.inr rfl

theorem finish_eq (w : Writer) : w.finish.toList = w.out.toList ++ List.replicate w.opened.length ')' := by
  obtain ⟨out, opened⟩ := w
  rw [finish]
  induction opened generalizing out with
  | nil => exact (List.append_nil _).symm
  | cons mark outer ih =>
    have one : ")".toList = [')'] := rfl
    rw [List.foldl_cons, ih, String.toList_append, one, List.append_assoc, List.length_cons, List.replicate_succ]
    rfl

/-- a writer that knows how many records its text leaves open -/
structure Level (w : Writer) : Prop where
  /-- the text is as deep as there are records open -/
  depth_eq : depth w.out.toList = w.opened.length
  /-- nothing was closed that was not open -/
  above : Above w.out.toList

variable {w : Writer}

/-- which of the records have fields makes no difference -/
theorem Level.of_eq {v : Writer} (h : w.Level) (out : v.out = w.out) (opened : v.opened.length = w.opened.length) :
    v.Level := by
  refine ⟨?_, ?_⟩
  · rw [out, opened]
    exact h.depth_eq
  · rw [out]
    exact h.above

theorem level_start : start.Level :=
  ⟨rfl, above_nil⟩

theorem Level.write {text : String} (h : w.Level) (bare : Bare text.toList) : (w.write text).Level := by
  refine ⟨?_, ?_⟩
  · rw [Writer.write, String.toList_append, depth_append, bare.depth_eq, add_zero]
    exact h.depth_eq
  · rw [Writer.write, String.toList_append]
    exact h.above.append_bare bare

theorem Level.opening (h : w.Level) : (w.stroke .opening).Level := by
  have one : depth "(".toList = 1 := rfl
  refine ⟨?_, ?_⟩
  · calc depth (w.out ++ "(").toList = depth w.out.toList + 1 := by rw [String.toList_append, depth_append, one]
      _ = w.opened.length + 1 := by rw [h.depth_eq]
      _ = (false :: w.opened).length := by rw [List.length_cons, Nat.cast_succ]
  · rw [stroke, String.toList_append]
    exact h.above.append_opening

theorem Level.separate (h : w.Level) : w.separate.Level := by
  have comma : Bare ", ".toList := by decide
  rcases w.separate_out with same | more
  · exact h.of_eq same w.separate_length
  · exact (h.write comma).of_eq more w.separate_length

/-- a parenthesis is closed only where a record is open, so the text is deep enough for it -/
theorem Level.close (h : w.Level) : w.close.Level := by
  obtain ⟨out, opened⟩ := w
  cases opened with
  | nil => exact h
  | cons mark outer =>
    have deep : depth out.toList = outer.length + 1 := h.depth_eq
    have one : ")".toList = List.replicate 1 ')' := rfl
    refine ⟨?_, ?_⟩
    · calc depth (out ++ ")").toList = depth out.toList + -1 := by
            rw [String.toList_append, depth_append, one, depth_closings, Nat.cast_one]
        _ = outer.length + 1 + -1 := by rw [deep]
        _ = outer.length := add_neg_cancel_right _ _
    · rw [Writer.close, String.toList_append, one]
      apply h.above.append_closings
      rw [deep, Nat.cast_one]
      omega

/-- **One stroke keeps a writer level**, if the text that it writes has no parentheses. -/
theorem Level.stroke {s : Stroke} (h : w.Level) (bare : s.Bare) : (w.stroke s).Level := by
  cases s with
  | write text => exact h.write bare
  | opening => exact h.opening
  | separating => exact h.separate
  | closing => exact h.close

/-- **Strokes keep a writer level**, one after the other. -/
theorem Level.after {strokes : List Stroke} (h : w.Level) (plain : AllPlain strokes) : (w.after strokes).Level := by
  induction strokes generalizing w with
  | nil => exact h
  | cons s rest ih =>
    obtain ⟨first, others⟩ := List.forall_mem_cons.1 plain
    exact ih (h.stroke first) others

/-- a level writer closes as much as is open -/
theorem Level.finish (h : w.Level) : Balanced w.finish.toList := by
  refine ⟨?_, ?_⟩
  · calc depth w.finish.toList = depth w.out.toList + -w.opened.length := by
          rw [finish_eq, depth_append, depth_closings]
      _ = 0 := by rw [h.depth_eq, add_neg_cancel]
  · rw [finish_eq]
    exact h.above.append_closings h.depth_eq.ge

end Writer

/-- **What a writer writes is balanced.** Let no name, key or value have a parenthesis; the calls may be any calls, in
any order. After any of their first strokes as many records are open as the text has opening parentheses more than
closing ones, and no part at the start of the text closes more than it opens. To finish there is to write the closing
parentheses that are missing and nothing else, so the text is balanced. -/
theorem finish_balanced (cs : List Call) (bare : ∀ word ∈ words cs, '(' ∉ word.toList ∧ ')' ∉ word.toList) :
    Writer.start.calls cs = Writer.start.after (strokes cs) ∧
      Balanced (written cs).toList ∧
      ∀ front, front <+: strokes cs →
        ((Writer.start.after front).opened.length : Int) = depth (Writer.start.after front).out.toList ∧
        Above (Writer.start.after front).out.toList ∧
        (Writer.start.after front).finish.toList =
          (Writer.start.after front).out.toList ++
            List.replicate (depth (Writer.start.after front).out.toList).toNat ')' ∧
        Balanced (Writer.start.after front).finish.toList := by
  have plain : AllPlain (strokes cs) := allPlain_strokes cs bare
  refine ⟨Writer.start.calls_eq_after cs, ?_, ?_⟩
  · rw [written, Writer.calls_eq_after]
    exact (Writer.level_start.after plain).finish
  · intro front hf
    have level : (Writer.start.after front).Level :=
      Writer.level_start.after fun s hs => plain s (hf.subset hs)
    refine ⟨level.depth_eq.symm, level.above, ?_, level.finish⟩
    rw [Writer.finish_eq, level.depth_eq, Int.toNat_natCast]

/-- a close with no record open, a value that closes the record around it and leaves one of its own open, an item that
closes what the item before it opened, a field behind them, and nothing closed at the end -/
theorem finish_balanced_disorder :
    let cs := [.close, .begin "A", .nested "k" [.close, .close, .begin "B"], .list "l" [[.begin "C"], [.close]],
      .pair "p" "v", .begin "D"]
    (∀ word ∈ words cs, '(' ∉ word.toList ∧ ')' ∉ word.toList) ∧ written cs = "A(k: )B(l: [C(, )], p: vD())" ∧
      Balanced (written cs).toList := by
  intro cs
  have bare : ∀ word ∈ words cs, '(' ∉ word.toList ∧ ')' ∉ word.toList := by decide
  obtain ⟨-, balanced, -⟩ := finish_balanced cs bare
  exact ⟨bare, by decide, balanced⟩

end Record

end TokenScanner
