import ImportTracking.Settings
import Mathlib.Data.List.Basic
import Mathlib.Data.List.TakeWhile
import Mathlib.Logic.Relation

/-!
# Listings — many items in one text

A variable that lists items has them in one text, with commas between them.  Many texts list the
same items, since blanks around an item do not count, nor does an item of blanks alone.  The text
that has the items with single commas between them is one of these, and it is read back as it is.

* `commaList_append_sep`: a comma parts a text in two that are read on their own.
* `item_of_mem_commaList`, `commaList_intercalate`: what is read are items, and items are read back.
* `commaList_eq_iff`: two texts list the same exactly when they differ in the room for blanks.
* `listed_normal`: so the items that are read from a text are its normal form.
-/

namespace ImportTracking

namespace Text

/-- A text of blanks alone. -/
def Blanks (w : List Char) : Prop := ∀ c ∈ w, isBlank c = true

/-- An item of a list: some text without a comma, and with no blank at either end. -/
structure Item (p : List Char) : Prop where
  ne_nil : p ≠ []
  comma : ',' ∉ p
  first : ∀ c ∈ p.head?, isBlank c = false
  last : ∀ c ∈ p.getLast?, isBlank c = false

variable {a b p w : List Char} {sep : Char}

theorem item_iff : Item p ↔ p ≠ [] ∧ ',' ∉ p ∧ p.head?.all (!isBlank ·) ∧
    p.getLast?.all (!isBlank ·) := by
  simp only [Option.all_eq_true, Bool.not_eq_true']
  exact ⟨fun ⟨hne, hcomma, hfirst, hlast⟩ => ⟨hne, hcomma, hfirst, hlast⟩,
    fun ⟨hne, hcomma, hfirst, hlast⟩ => ⟨hne, hcomma, hfirst, hlast⟩⟩

instance : Decidable (Item p) := decidable_of_iff _ item_iff.symm

theorem Blanks.comma (h : Blanks w) : ',' ∉ w := fun hc =>
  absurd (h _ hc) (by decide)

/-! ### Trimming -/

theorem trimEnd_append_blanks (h : Blanks w) (cs : List Char) :
    trimEnd (cs ++ w) = trimEnd cs := by
  unfold trimEnd
  rw [List.reverse_append, List.dropWhile_append_of_pos]
  exact fun c hc => h c (List.mem_reverse.mp hc)

/-- Blanks behind make no difference to a trimmed text. -/
theorem trim_append_blanks (h : Blanks w) (cs : List Char) : trim (cs ++ w) = trim cs := by
  unfold trim trimStart
  rw [List.dropWhile_append]
  split
  · -- the text is blank itself, and nothing is left of either
    rename_i hcs
    rw [List.isEmpty_iff.mp hcs, ← List.append_nil w, List.dropWhile_append_of_pos h]
    rfl
  · exact trimEnd_append_blanks h _

/-- Trimming takes blanks off the end of a text whose start is trimmed. -/
theorem exists_trimStart_eq (cs : List Char) : ∃ r, Blanks r ∧ trimStart cs = trim cs ++ r := by
  refine ⟨((trimStart cs).reverse.takeWhile isBlank).reverse, fun c hc => ?_, ?_⟩
  · exact List.mem_takeWhile_imp (List.mem_reverse.mp hc)
  · rw [trim, trimEnd, ← List.reverse_append, List.takeWhile_append_dropWhile,
      List.reverse_reverse]

/-- A text is what is left of it when it is trimmed, with blanks at both ends. -/
theorem exists_eq_append_trim (cs : List Char) :
    ∃ l r, Blanks l ∧ Blanks r ∧ l ++ trim cs ++ r = cs := by
  obtain ⟨r, hr, hcs⟩ := exists_trimStart_eq cs
  refine ⟨cs.takeWhile isBlank, r, fun c hc => List.mem_takeWhile_imp hc, hr, ?_⟩
  rw [List.append_assoc, ← hcs]
  exact List.takeWhile_append_dropWhile

/-- A trimmed text that is left over is an item, if there was no comma in the text. -/
theorem item_trim {cs : List Char} (hne : trim cs ≠ []) (hcomma : ',' ∉ cs) : Item (trim cs) where
  ne_nil := hne
  comma hc := by
    obtain ⟨l, r, -, -, hcs⟩ := exists_eq_append_trim cs
    rw [← hcs] at hcomma
    exact hcomma (List.mem_append_left _ (List.mem_append_right _ hc))
  first c hc := by
    obtain ⟨r, -, hr⟩ := exists_trimStart_eq cs
    have hhead : (trimStart cs).head? = some c := by
      rw [hr, List.head?_append, Option.mem_def.mp hc]
      rfl
    exact not_isBlank_head_trimStart hhead
  last c hc := by
    rw [trim, trimEnd, List.getLast?_reverse, Option.mem_def] at hc
    exact not_isBlank_head_trimStart hc

/-- There is nothing to trim of an item. -/
theorem Item.trim_eq (h : Item p) : trim p = p := by
  have hstart : trimStart p = p := by
    cases p with
    | nil => rfl
    | cons c cs => exact List.dropWhile_cons_of_neg (by simp [h.first c rfl])
  have hend : p.reverse.dropWhile isBlank = p.reverse := by
    cases hr : p.reverse with
    | nil => rfl
    | cons c cs =>
        refine List.dropWhile_cons_of_neg ?_
        simp [h.last c (by rw [← List.head?_reverse, hr]; rfl)]
  rw [trim, hstart, trimEnd, hend, List.reverse_reverse]

/-! ### Pieces -/

/-- A text without separators is one piece. -/
theorem pieces_of_not_mem (h : sep ∉ p) : pieces sep p = [p] := by
  induction p with
  | nil => rfl
  | cons c cs ih =>
      obtain ⟨hc, hcs⟩ := List.ne_and_not_mem_of_not_mem_cons h
      rw [pieces, if_neg (Ne.symm hc), ih hcs]

theorem not_mem_of_mem_pieces {q : List Char} (hq : q ∈ pieces sep a) : sep ∉ q := by
  induction a generalizing q with
  | nil => simp_all [pieces]
  | cons c cs ih =>
      rw [pieces] at hq
      split at hq
      · obtain rfl | hq := List.mem_cons.mp hq
        · exact List.not_mem_nil
        · exact ih hq
      · rename_i hc
        obtain ⟨p, ps, hp⟩ := List.exists_cons_of_ne_nil (pieces_ne_nil sep cs)
        rw [hp] at hq ih
        obtain rfl | hq := List.mem_cons.mp hq
        · exact List.not_mem_cons_of_ne_of_not_mem (Ne.symm hc) (ih List.mem_cons_self)
        · exact ih (List.mem_cons_of_mem _ hq)

/-- Text put in front that has no separator belongs to the first piece. -/
theorem pieces_append_of_not_mem (h : sep ∉ w) (b : List Char) :
    ∃ p ps, pieces sep b = p :: ps ∧ pieces sep (w ++ b) = (w ++ p) :: ps := by
  induction w with
  | nil =>
      obtain ⟨p, ps, hp⟩ := List.exists_cons_of_ne_nil (pieces_ne_nil sep b)
      exact ⟨p, ps, hp, hp⟩
  | cons c cs ih =>
      obtain ⟨hc, hcs⟩ := List.ne_and_not_mem_of_not_mem_cons h
      obtain ⟨p, ps, hp, hps⟩ := ih hcs
      refine ⟨p, ps, hp, ?_⟩
      rw [List.cons_append, pieces, if_neg (Ne.symm hc), hps]
      rfl

/-- Text put behind that has no separator belongs to the last piece. -/
theorem pieces_of_append_not_mem (h : sep ∉ w) (a : List Char) :
    ∃ ps p, pieces sep a = ps ++ [p] ∧ pieces sep (a ++ w) = ps ++ [p ++ w] := by
  induction a with
  | nil => exact ⟨[], [], rfl, pieces_of_not_mem h⟩
  | cons c cs ih =>
      obtain ⟨ps, p, hp, hps⟩ := ih
      by_cases hc : c = sep
      · refine ⟨[] :: ps, p, ?_, ?_⟩
        · rw [pieces, if_pos hc, hp, List.cons_append]
        · rw [List.cons_append, pieces, if_pos hc, hps, List.cons_append]
      · -- the character goes to the first piece, which may be the last one
        rw [List.cons_append, pieces, pieces, if_neg hc, if_neg hc, hp, hps]
        cases ps with
        | nil => exact ⟨[], c :: p, rfl, rfl⟩
        | cons q ps => exact ⟨(c :: q) :: ps, p, rfl, rfl⟩

/-! ### Lists -/

/-- The items of some pieces. -/
def itemsOf (ps : List (List Char)) : List (List Char) :=
  (ps.map trim).filter fun p => !p.isEmpty

theorem commaList_eq (cs : List Char) : commaList cs = itemsOf (pieces ',' cs) := rfl

theorem itemsOf_append (ps qs : List (List Char)) :
    itemsOf (ps ++ qs) = itemsOf ps ++ itemsOf qs := by
  rw [itemsOf, List.map_append, List.filter_append]
  rfl

theorem itemsOf_congr {q : List Char} (h : trim p = trim q) : itemsOf [p] = itemsOf [q] := by
  rw [itemsOf, List.map_singleton, h]
  rfl

/-- **A comma parts a text** in two that are read on their own. -/
theorem commaList_append_sep (a b : List Char) :
    commaList (a ++ ',' :: b) = commaList a ++ commaList b := by
  rw [commaList_eq, pieces_append_sep, itemsOf_append]
  rfl

/-- **What is read are items.** -/
theorem item_of_mem_commaList (h : p ∈ commaList a) : Item p := by
  have hne := mem_commaList_ne_nil h
  rw [commaList, List.mem_filter, List.mem_map] at h
  obtain ⟨⟨q, hq, rfl⟩, -⟩ := h
  exact item_trim hne (not_mem_of_mem_pieces hq)

theorem Item.commaList_eq (h : Item p) : commaList p = [p] := by
  have hne : (!p.isEmpty) = true := by simpa using h.ne_nil
  rw [commaList, pieces_of_not_mem h.comma, List.map_singleton, h.trim_eq, List.filter_cons,
    if_pos hne, List.filter_nil]

/-- **Items are read back** from the text that has them with commas between them. -/
theorem commaList_intercalate {items : List (List Char)} (h : ∀ p ∈ items, Item p) :
    commaList (List.intercalate [','] items) = items := by
  induction items with
  | nil => rfl
  | cons p items ih =>
      obtain ⟨hp, hitems⟩ := List.forall_mem_cons.mp h
      cases items with
      | nil => rw [List.intercalate_singleton, hp.commaList_eq]
      | cons q items =>
          rw [List.intercalate_cons_cons, List.append_assoc, List.singleton_append,
            commaList_append_sep, hp.commaList_eq, ih hitems]
          rfl

/-- **Blanks behind** make no difference to what a text lists. -/
theorem commaList_append_blanks (h : Blanks w) (a : List Char) :
    commaList (a ++ w) = commaList a := by
  obtain ⟨ps, p, hp, hps⟩ := pieces_of_append_not_mem h.comma a
  rw [commaList_eq, commaList_eq, hp, hps, itemsOf_append, itemsOf_append,
    itemsOf_congr (trim_append_blanks h p)]

/-- **Blanks in front** make no difference to what a text lists. -/
theorem commaList_blanks_append (h : Blanks w) (b : List Char) :
    commaList (w ++ b) = commaList b := by
  obtain ⟨p, ps, hp, hps⟩ := pieces_append_of_not_mem h.comma b
  rw [commaList_eq, commaList_eq, hp, hps, ← List.singleton_append, itemsOf_append,
    itemsOf_congr (trim_blanks_append h p), ← itemsOf_append]
  rfl

/-- Blanks alone list nothing. -/
theorem commaList_of_blanks (h : Blanks w) : commaList w = [] := by
  rw [← List.append_nil w, commaList_blanks_append h]
  rfl

/-! ### Room -/

/-- A text with more room in it: blanks were put around a comma, or an item of blanks alone between
the others, before them or behind them. -/
inductive Spaced : List Char → List Char → Prop where
  | around (a b : List Char) {l r : List Char} (hl : Blanks l) (hr : Blanks r) :
      Spaced (a ++ ',' :: b) (a ++ l ++ ',' :: (r ++ b))
  | between (a b : List Char) {w : List Char} (hw : Blanks w) :
      Spaced (a ++ ',' :: b) (a ++ ',' :: (w ++ ',' :: b))
  | before (a : List Char) {w : List Char} (hw : Blanks w) : Spaced a (w ++ ',' :: a)
  | behind (a : List Char) {w : List Char} (hw : Blanks w) : Spaced a (a ++ ',' :: w)

/-- Two texts that room made, or taken away, turns into each other. -/
abbrev Alike : List Char → List Char → Prop := Relation.EqvGen Spaced

theorem Spaced.alike (h : Spaced a b) : Alike a b := .rel _ _ h

/-- More room makes no difference to what a text lists. -/
theorem Spaced.commaList_eq (h : Spaced a b) : commaList a = commaList b := by
  cases h with
  | around a b hl hr =>
      rw [commaList_append_sep, commaList_append_sep, commaList_append_blanks hl,
        commaList_blanks_append hr]
  | between a b hw =>
      rw [commaList_append_sep, commaList_append_sep, commaList_append_sep,
        commaList_of_blanks hw, List.nil_append]
  | before a hw => rw [commaList_append_sep, commaList_of_blanks hw, List.nil_append]
  | behind a hw => rw [commaList_append_sep, commaList_of_blanks hw, List.append_nil]

theorem Alike.commaList_eq (h : Alike a b) : commaList a = commaList b := by
  induction h with
  | rel _ _ h => exact h.commaList_eq
  | refl => rfl
  | symm _ _ _ ih => exact ih.symm
  | trans _ _ _ _ _ ih ih' => exact ih.trans ih'

/-- Pieces, each with a comma behind it. -/
def closed (ps : List (List Char)) : List Char := ps.flatMap (· ++ [','])

theorem closed_cons (p : List Char) (ps : List (List Char)) :
    closed (p :: ps) = p ++ ',' :: closed ps := by
  rw [closed, List.flatMap_cons, List.append_assoc]
  rfl

theorem closed_pieces (a : List Char) : closed (pieces ',' a) = a ++ [','] := by
  induction a with
  | nil => rfl
  | cons c cs ih =>
      rw [pieces]
      split
      · rename_i hc
        rw [closed_cons, ih, hc]
        rfl
      · obtain ⟨p, ps, hp⟩ := List.exists_cons_of_ne_nil (pieces_ne_nil ',' cs)
        rw [hp, closed_cons] at ih
        rw [hp, closed_cons, List.cons_append, ih]
        rfl

theorem closed_intercalate {items : List (List Char)} (h : items ≠ []) :
    closed items = List.intercalate [','] items ++ [','] := by
  induction items with
  | nil => exact absurd rfl h
  | cons p items ih =>
      cases items with
      | nil => rw [closed_cons, List.intercalate_singleton]; rfl
      | cons q items =>
          rw [closed_cons, ih (List.cons_ne_nil _ _), List.intercalate_cons_cons]
          simp

/-- A piece has room for what was trimmed off it. -/
theorem alike_trim (a p b : List Char) :
    Alike (a ++ ',' :: (p ++ ',' :: b)) (a ++ ',' :: (trim p ++ ',' :: b)) := by
  obtain ⟨l, r, hl, hr, hp⟩ := exists_eq_append_trim p
  have hleft : Alike (a ++ ',' :: (trim p ++ ',' :: b))
      (a ++ ',' :: (l ++ trim p ++ ',' :: b)) := by
    simpa using (Spaced.around a (trim p ++ ',' :: b) (l := []) (by simp [Blanks]) hl).alike
  have hright : Alike (a ++ ',' :: (l ++ trim p ++ ',' :: b))
      (a ++ ',' :: (l ++ trim p ++ r ++ ',' :: b)) := by
    simpa using
      (Spaced.around (a ++ ',' :: (l ++ trim p)) b (r := []) hr (by simp [Blanks])).alike
  have hboth := hleft.trans _ _ _ hright
  rw [hp] at hboth
  exact hboth.symm

/-- Between commas, the items of some pieces are all that counts. -/
theorem alike_closed (a : List Char) (ps : List (List Char)) :
    Alike (a ++ ',' :: closed ps) (a ++ ',' :: closed (itemsOf ps)) := by
  -- every item stands behind the items before it, so the text in front is any
  induction ps generalizing a with
  | nil => exact .refl _
  | cons p ps ih =>
      rw [closed_cons]
      refine (alike_trim a p (closed ps)).trans _ _ _ ?_
      rw [← List.singleton_append (x := p), itemsOf_append]
      by_cases hp : trim p = []
      · have hnone : itemsOf [p] = [] := by simp [itemsOf, hp]
        rw [hp, hnone]
        exact ((Spaced.between a (closed ps) (w := []) (by simp [Blanks])).alike.symm).trans _ _ _
          (ih a)
      · have hone : itemsOf [p] = [trim p] := by simp [itemsOf, hp]
        rw [hone, List.singleton_append, closed_cons]
        simpa using ih (a ++ ',' :: trim p)

/-- **A text is alike to its normal form.** -/
theorem alike_intercalate (a : List Char) :
    Alike a (List.intercalate [','] (commaList a)) := by
  have hnone : Blanks [] := List.forall_mem_nil _
  have hclose (a : List Char) : Alike a (',' :: (a ++ [','])) :=
    (Spaced.behind a hnone).alike.trans _ _ _ (Spaced.before (a ++ [',']) hnone).alike
  have hitems : Alike a (',' :: closed (commaList a)) := by
    refine (hclose a).trans _ _ _ ?_
    rw [← closed_pieces]
    exact alike_closed [] (pieces ',' a)
  refine hitems.trans _ _ _ ?_
  by_cases h : commaList a = []
  · rw [h]
    exact (Spaced.before [] hnone).alike.symm
  · rw [closed_intercalate h]
    exact (hclose _).symm

/-- **Two texts list the same** exactly when room made or taken away turns one into the other. -/
theorem commaList_eq_iff : commaList a = commaList b ↔ Alike a b := by
  refine ⟨fun h => ?_, Alike.commaList_eq⟩
  have hb := alike_intercalate b
  rw [← h] at hb
  exact (alike_intercalate a).trans _ _ _ hb.symm

/-! ### Texts -/

/-- The items that a text lists. -/
def listed (s : String) : List String := (commaList s.toList).map String.ofList

variable {s t : String}

theorem listed_append_sep (s t : String) : listed (s ++ "," ++ t) = listed s ++ listed t := by
  have htext : (s ++ "," ++ t).toList = s.toList ++ ',' :: t.toList := by simp
  rw [listed, htext, commaList_append_sep, List.map_append]
  rfl

theorem item_of_mem_listed (h : t ∈ listed s) : Item t.toList := by
  obtain ⟨p, hp, rfl⟩ := List.mem_map.mp h
  rw [String.toList_ofList]
  exact item_of_mem_commaList hp

theorem listed_intercalate {items : List String} (h : ∀ t ∈ items, Item t.toList) :
    listed (",".intercalate items) = items := by
  have hitems : ∀ p ∈ items.map String.toList, Item p := List.forall_mem_map.mpr h
  rw [listed, String.toList_intercalate, show ",".toList = [','] from rfl,
    commaList_intercalate hitems, List.map_map]
  exact List.map_id'' (fun t => String.ofList_toList) items

theorem listed_eq_iff : listed s = listed t ↔ Alike s.toList t.toList := by
  rw [← commaList_eq_iff]
  exact (List.map_injective_iff.mpr fun _ _ h => String.ofList_inj.mp h).eq_iff

/-- **The items that are read from a text are its normal form.**  A comma parts a text; what is read
are items; items are read back from the text that joins them, and so is what was read from any text;
and no room that is made in a text changes what is read from it, nor does anything but room. -/
theorem listed_normal :
    (∀ (env : Environment) name, env.list? name = (env.text? name).map listed) ∧
      (∀ s t, listed (s ++ "," ++ t) = listed s ++ listed t) ∧
      (∀ s, ∀ t ∈ listed s, Item t.toList) ∧
      (∀ items : List String, (∀ t ∈ items, Item t.toList) →
        listed (",".intercalate items) = items) ∧
      (∀ s, listed (",".intercalate (listed s)) = listed s) ∧
      ∀ s t, listed s = listed t ↔ Alike s.toList t.toList :=
  ⟨fun _ _ => rfl, listed_append_sep, fun _ _ => item_of_mem_listed, fun _ => listed_intercalate,
    fun _ => listed_intercalate fun _ => item_of_mem_listed, fun _ _ => listed_eq_iff⟩

/-- Two items, in the text that joins them and in one with much room. -/
theorem listed_normal_roomy :
    let items := ["issues", "merge requests"]
    let roomy := "\u2003issues ,, merge requests\t, "
    (∀ t ∈ items, Item t.toList) ∧ listed "issues,merge requests" = items ∧
      listed roomy = items ∧ Alike roomy.toList "issues,merge requests".toList := by
  intro items roomy
  have hitems : ∀ t ∈ items, Item t.toList := by decide
  obtain ⟨-, -, -, hread, -, hiff⟩ := listed_normal
  have hjoined : listed "issues,merge requests" = items := hread items hitems
  have hroomy : listed roomy = items := by decide
  exact ⟨hitems, hjoined, hroomy, (hiff _ _).mp (hroomy.trans hjoined.symm)⟩

end Text

end ImportTracking
