import ReachMixture.Json
import ReachMixture.Proofs.Decimal.Characters
import ReachMixture.Proofs.Text.Pieces

/-!
# Documents can be told apart

The text of a document determines it. Reading from the left, the first character
tells a list, a record and a number apart, a number ends where its characters
end, a name at its closing quote, and a list or record where no comma follows.
Empty ones are written in another shape, but they too end where they do.

- `WritesApart`: the numbers whose texts are told apart.
- `Clean`: documents of such numbers whose field names need no escapes.
- `more_inj`: what holds for the items of a list, if it holds for each.
- `render_inj`: **unique readability**.
-/

namespace ReachMixture

namespace Json

open Decimal

variable {α : Type} [NumberText α] {P : α → Prop}

/-- Numbers with `P` are written in `isNumeric` characters, not as naturals are,
and injectively. -/
structure WritesApart (P : α → Prop) : Prop where
  numeral : ∀ x, P x → IsNumeral (NumberText.value x).toList
  hasMark : ∀ x, P x → HasMark (NumberText.value x).toList
  injective : ∀ x y, P x → P y → NumberText.value x = NumberText.value y → x = y

omit [NumberText α] in
/-- All numbers of the document satisfy `P`, and no field name has a quote in
it. -/
inductive Clean (P : α → Prop) : Json α → Prop where
  | nat (n : Nat) : Clean P (.nat n)
  | number {x : α} (h : P x) : Clean P (.number x)
  | list {items : List (Json α)} (h : ∀ item ∈ items, Clean P item) :
    Clean P (.list items)
  | object {fields : List (String × Json α)} (hnames : ∀ field ∈ fields,
    '"' ∉ field.1.toList) (hvalues : ∀ field ∈ fields, Clean P field.2) :
    Clean P (.object fields)

/-- What may follow a document: nothing that could belong to a number. -/
def Ends (r : List Char) : Prop := ∀ c ∈ r.head?, isNumeric c = false

/-- One of the texts that `renderFields` makes. -/
def fieldText (depth : Nat) (field : String × Json α) : String :=
  "\"" ++ field.1 ++ "\": " ++ render depth field.2

theorem renderItems_eq_map (depth : Nat) (items : List (Json α)) :
    renderItems depth items = items.map (render depth) := by
  induction items with
  | nil => rfl
  | cons item items ih => rw [renderItems, ih, List.map_cons]

theorem renderFields_eq_map (depth : Nat) (fields : List (String × Json α)) :
    renderFields depth fields = fields.map (fieldText depth) := by
  induction fields with
  | nil => rfl
  | cons field fields ih => rw [renderFields, ih, List.map_cons]; rfl

/-! ## What stands between brackets -/

/-- Items with a comma in front of each, and the closing bracket. -/
def more (closing : String) (depth : Nat) : List String → List Char
  | [] => (newline depth).toList ++ closing.toList
  | s :: rest =>
    ',' :: (newline (depth + 1)).toList ++ (s.toList ++ more closing depth rest)

theorem toList_newline (depth : Nat) : (newline depth).toList =
    '\n' :: List.replicate (2 * depth) ' ' := by
  rw [newline, String.toList_append]
  exact congrArg ('\n' :: ·) String.toList_ofList

theorem toList_enclose_nil (opening closing : String) (depth : Nat) :
    (enclose opening closing depth []).toList = opening.toList ++ closing.toList :=
  String.toList_append

/-- `enclose` of at least one item in terms of `more`. The first item has no
comma in front of it. -/
theorem toList_enclose_cons (opening closing : String) (depth : Nat) (s : String)
    (rest : List String) :
    (enclose opening closing depth (s :: rest)).toList =
      opening.toList ++ (more closing depth (s :: rest)).tail := by
  have hitems : ∀ (s : String) (rest : List String),
      (String.intercalate ("," ++ newline (depth + 1)) (s :: rest)).toList ++
        ((newline depth).toList ++ closing.toList) =
          s.toList ++ more closing depth rest := by
    intro s rest
    induction rest generalizing s with
    | nil => rw [String.intercalate_singleton]; rfl
    | cons t rest ih =>
      rw [String.intercalate_cons_cons, String.toList_append,
        String.toList_append, String.toList_append, List.append_assoc, ih, more,
        List.append_assoc, List.append_assoc]
      rfl
  rw [enclose, if_neg (by exact Bool.false_ne_true), String.toList_append,
    String.toList_append, String.toList_append, String.toList_append, List.append_assoc,
    List.append_assoc, List.append_assoc, hitems]
  rfl

/-- What follows an item inside brackets `Ends` it. -/
theorem ends_more (closing : String) (depth : Nat) (items : List String) (r : List Char) :
    Ends (more closing depth items ++ r) := by
  cases items with
  | nil =>
    rw [more, toList_newline]
    rintro c ⟨⟩
    rfl
  | cons s rest =>
    rintro c ⟨⟩
    rfl

/-- **Items can be told apart** if each of them can be told from what follows
it. -/
theorem more_inj {β : Type} {text : β → String} {closing : String} {depth : Nat}
    {xs ys : List β} {r r' : List Char}
    (heach : ∀ x ∈ xs, ∀ y ∈ ys, ∀ r r', Ends r → Ends r' →
      (text x).toList ++ r = (text y).toList ++ r' → x = y ∧ r = r')
    (h : more closing depth (xs.map text) ++ r =
      more closing depth (ys.map text) ++ r') : xs = ys ∧ r = r' := by
  induction xs generalizing ys with
  | nil =>
    cases ys with
    | nil => exact ⟨rfl, List.append_cancel_left h⟩
    | cons y ys =>
      -- the list on the left ends with a line break, and the one on the right
      -- goes on with a comma
      rw [List.map_nil, more, toList_newline] at h
      cases (List.cons.inj h).1
  | cons x xs ih =>
    cases ys with
    | nil =>
      rw [List.map_nil, List.map_cons, more, more, toList_newline depth] at h
      cases (List.cons.inj h).1
    | cons y ys =>
      simp only [List.map_cons, more, List.append_assoc] at h
      have hitem := List.append_cancel_left h
      obtain ⟨rfl, hrest⟩ := heach x List.mem_cons_self y List.mem_cons_self
        _ _ (ends_more _ _ _ _) (ends_more _ _ _ _) hitem
      obtain ⟨rfl, rfl⟩ := ih (fun x' hx' y' hy' => heach x'
        (List.mem_cons_of_mem x hx') y' (List.mem_cons_of_mem x hy')) hrest
      exact ⟨rfl, rfl⟩

/-- `more_inj` for `enclose`. Brackets are closed at once if there is nothing
between them, and otherwise on another line. -/
theorem enclose_inj {β : Type} {text : β → String} {opening closing : String} {c : Char}
    (hclosing : closing.toList = [c]) (hc : c ≠ '\n') {depth : Nat} {xs ys : List β}
    {r r' : List Char}
    (heach : ∀ x ∈ xs, ∀ y ∈ ys, ∀ r r', Ends r → Ends r' →
      (text x).toList ++ r = (text y).toList ++ r' → x = y ∧ r = r')
    (h : (enclose opening closing depth (xs.map text)).toList ++ r =
      (enclose opening closing depth (ys.map text)).toList ++ r') : xs = ys ∧ r = r' := by
  have hmore : ∀ (s : String) (rest : List String), ∃ cs,
      more closing depth (s :: rest) = ',' :: '\n' :: cs := by
    intro s rest
    rw [more, toList_newline]
    exact ⟨_, rfl⟩
  cases xs with
  -- an empty list goes on with the closing bracket, any other one with a new
  -- line
  | nil =>
    cases ys with
    | nil => exact ⟨rfl, List.append_cancel_left h⟩
    | cons y ys =>
      obtain ⟨cs, hcs⟩ := hmore (text y) (ys.map text)
      rw [List.map_nil, List.map_cons, toList_enclose_nil, toList_enclose_cons,
        hclosing, hcs, List.append_assoc, List.append_assoc] at h
      exact absurd (List.cons.inj (List.append_cancel_left h)).1 hc
  | cons x xs =>
    cases ys with
    | nil =>
      obtain ⟨cs, hcs⟩ := hmore (text x) (xs.map text)
      rw [List.map_nil, List.map_cons, toList_enclose_nil, toList_enclose_cons,
        hclosing, hcs, List.append_assoc, List.append_assoc] at h
      exact absurd (List.cons.inj (List.append_cancel_left h)).1.symm hc
    | cons y ys =>
      rw [List.map_cons, List.map_cons, toList_enclose_cons, toList_enclose_cons,
        List.append_assoc, List.append_assoc] at h
      exact more_inj heach (congrArg (',' :: ·) (List.append_cancel_left h))

/-! ## Documents -/

/-- The bracket that a document begins with; `none` for numbers. -/
def opener : Json α → Option Char
  | .nat _ => none
  | .number _ => none
  | .list _ => some '['
  | .object _ => some '\x7b'

/-- The first character of `render` tells the `opener`. -/
theorem head_render {j : Json α} (hP : WritesApart P) (hj : Clean P j)
    (depth : Nat) (r : List Char) :
    ((render depth j).toList ++ r).head?.filter (fun c => !isNumeric c) = opener j := by
  have hnumeral : ∀ {cs : List Char}, IsNumeral cs →
      (cs ++ r).head?.filter (fun c => !isNumeric c) = none := by
    rintro cs ⟨hne, hnumeric⟩
    obtain ⟨c, cs, rfl⟩ := List.exists_cons_of_ne_nil hne
    rw [List.cons_append, List.head?_cons, Option.filter_some,
      hnumeric c List.mem_cons_self]
    rfl
  have henclose : ∀ (opening closing : String) (c : Char) (items : List String),
      opening.toList = [c] →
      ((enclose opening closing depth items).toList ++ r).head? = some c := by
    intro opening closing c items hopening
    cases items with
    | nil => rw [toList_enclose_nil, hopening]; rfl
    | cons s rest => rw [toList_enclose_cons, hopening]; rfl
  cases hj with
  | nat n => exact hnumeral (isNumeral_toString n)
  | number h => exact hnumeral (hP.numeral _ h)
  | list h => rw [render, henclose "[" "]" '[' _ rfl]; rfl
  | object hnames hvalues => rw [render, henclose "\x7b" "\x7d" '\x7b' _ rfl]; rfl

theorem opener_eq (hP : WritesApart P) {j j' : Json α} (hj : Clean P j)
    (hj' : Clean P j') {depth : Nat} {r r' : List Char}
    (h : (render depth j).toList ++ r = (render depth j').toList ++ r') :
    opener j = opener j' := by
  rw [← head_render hP hj depth r, h, head_render hP hj' depth r']

/-- A field can be told from what follows it, if its value can. -/
theorem fieldText_inj {depth : Nat} {f g : String × Json α}
    {r r' : List Char} (hf : '"' ∉ f.1.toList) (hg : '"' ∉ g.1.toList)
    (hvalue : (render depth f.2).toList ++ r = (render depth g.2).toList ++ r' →
      f.2 = g.2 ∧ r = r')
    (h : (fieldText depth f).toList ++ r = (fieldText depth g).toList ++ r') :
    f = g ∧ r = r' := by
  have htext : ∀ (f : String × Json α) (r : List Char), (fieldText depth f).toList ++ r =
      '"' :: (f.1.toList ++ '"' :: ':' :: ' ' :: ((render depth f.2).toList ++ r)) := by
    intro f r
    simp only [fieldText, String.toList_append, List.append_assoc]
    rfl
  have hname : ∀ {name : String}, '"' ∉ name.toList →
      ∀ c ∈ name.toList, (c != '"') = true := by
    intro name hname c hc
    rw [bne_iff_ne]
    rintro rfl
    exact hname hc
  rw [htext, htext] at h
  obtain ⟨hnames, hrest⟩ := Text.append_inj_of_span (hname hf) (hname hg)
    (by rintro c ⟨⟩; rfl) (by rintro c ⟨⟩; rfl) (List.cons.inj h).2
  change ['"', ':', ' '] ++ _ = ['"', ':', ' '] ++ _ at hrest
  obtain ⟨hvalues, hr⟩ := hvalue (List.append_cancel_left hrest)
  exact ⟨Prod.ext (String.toList_injective hnames) hvalues, hr⟩

/-- Numerals end where `isNumeric` characters do. -/
theorem numeral_inj {s t : String} (hs : IsNumeral s.toList)
    (ht : IsNumeral t.toList) {r r' : List Char} (hr : Ends r) (hr' : Ends r')
    (h : s.toList ++ r = t.toList ++ r') : s = t ∧ r = r' := by
  obtain ⟨hst, hrest⟩ := Text.append_inj_of_span hs.numeric ht.numeric hr hr' h
  exact ⟨String.toList_injective hst, hrest⟩

/-- No natural is written as a number with `P` is. -/
theorem toString_ne_value (hP : WritesApart P) {x : α} (hx : P x) (n : Nat) :
    toString n ≠ NumberText.value x := by
  intro h
  obtain ⟨c, hc, hmark⟩ := hP.hasMark x hx
  rw [← h, toList_toString] at hc
  exact Bool.false_ne_true (hmark.symm.trans (isDigit_of_mem_digitText hc))

/-- **Unique readability.** If the texts of two `Clean` documents, followed by
what `Ends` them, are the same, then so are the documents and what follows. By
induction on the first document. -/
theorem render_inj (hP : WritesApart P) {j j' : Json α} (hj : Clean P j)
    (hj' : Clean P j') {depth : Nat} {r r' : List Char} (hr : Ends r) (hr' : Ends r')
    (h : (render depth j).toList ++ r = (render depth j').toList ++ r') :
    j = j' ∧ r = r' := by
  induction hj generalizing j' depth r r' with
  | nat n =>
    -- the first character tells lists, objects and numbers apart; a natural
    -- number and a number are told apart by `toString_ne_value`
    have hopener := opener_eq hP (.nat n) hj' h
    rw [render] at h
    cases hj' with
    | nat n' =>
      rw [render] at h
      obtain ⟨htext, hrest⟩ :=
        numeral_inj (isNumeral_toString n) (isNumeral_toString n') hr hr' h
      have hdigits : digitText n = digitText n' := by
        rw [← toList_toString, ← toList_toString, htext]
      exact ⟨by rw [digitText_injective hdigits], hrest⟩
    | number hx =>
      exact absurd (numeral_inj (isNumeral_toString n) (hP.numeral _ hx) hr hr' h).1
        (toString_ne_value hP hx n)
    | list hitems => cases hopener
    | object hnames hvalues => cases hopener
  | number hx =>
    have hopener := opener_eq hP (.number hx) hj' h
    rw [render] at h
    cases hj' with
    | nat n =>
      exact absurd (numeral_inj (hP.numeral _ hx) (isNumeral_toString n) hr hr'
        h).1.symm (toString_ne_value hP hx n)
    | number hy =>
      obtain ⟨htext, hrest⟩ := numeral_inj (hP.numeral _ hx) (hP.numeral _ hy) hr hr' h
      exact ⟨by rw [hP.injective _ _ hx hy htext], hrest⟩
    | list hitems => cases hopener
    | object hnames hvalues => cases hopener
  | list hitems ih =>
    have hopener := opener_eq hP (.list hitems) hj' h
    cases hj' with
    | nat n => cases hopener
    | number hy => cases hopener
    | list hitems' =>
      rw [render, render, renderItems_eq_map, renderItems_eq_map] at h
      obtain ⟨rfl, hrest⟩ := enclose_inj (c := ']') rfl (by decide)
        (fun item hitem item' hitem' r r' hr hr' => ih item hitem
          (hitems' item' hitem') hr hr') h
      exact ⟨rfl, hrest⟩
    | object hnames hvalues => cases hopener
  | object hnames hvalues ih =>
    have hopener := opener_eq hP (.object hnames hvalues) hj' h
    cases hj' with
    | nat n => cases hopener
    | number hy => cases hopener
    | list hitems' => cases hopener
    | object hnames' hvalues' =>
      rw [render, render, renderFields_eq_map, renderFields_eq_map] at h
      obtain ⟨rfl, hrest⟩ := enclose_inj (c := '\x7d') rfl (by decide)
        (fun f hf g hg r r' hr hr' => fieldText_inj (hnames f hf) (hnames' g hg)
          (ih f hf (hvalues' g hg) hr hr')) h
      exact ⟨rfl, hrest⟩

/-- `render` is injective on `Clean` documents. -/
theorem eq_of_render_eq (hP : WritesApart P) {j j' : Json α} (hj : Clean P j)
    (hj' : Clean P j') {depth : Nat} (h : render depth j = render depth j') : j = j' := by
  have hends : Ends [] := by rintro c ⟨⟩
  exact (render_inj hP hj hj' hends hends (congrArg (fun s => s.toList ++ []) h)).1

end Json

end ReachMixture
