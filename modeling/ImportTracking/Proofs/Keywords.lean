import ImportTracking.Database.Error
import Mathlib.Data.List.Infix

/-!
# Keywords — the kind of an error that its message tells

The kind of an error is searched in its whole wording, in lower case.  The wording says in front
what was done when the error came up, and the message follows.  No keyword begins in what stands in
front, and so the message alone tells the kind.

What stands in front, or the case of other letters, can change which small form a capital sigma has
in the message.  Neither form is a letter of a keyword, so the keywords are those of the message put
in lower case letter by letter.

* `Text.infix_append_iff`: a word that cannot begin in a text is found behind it, or not at all.
* `Text.infix_lowercase_iff`: lower case has the keywords that it has letter by letter.
* `Error.kind_eq_iff_tells`: the message tells the kind.
* `Error.kind_of_message`: so it does for all three errors that are searched, in capitals or not,
  and no other error is taken for a lost race.
-/

namespace ImportTracking

namespace Text

variable {p w cs ls : List Char} {c : Char} {s t : String}

/-! ### Words in a text -/

theorem occursIn_iff : occursIn w cs = true ↔ w <:+: cs := by
  induction cs with
  | nil => rw [occursIn, List.isEmpty_iff, List.infix_nil]
  | cons c cs ih =>
      rw [occursIn, Bool.or_eq_true, List.isPrefixOf_iff_prefix, ih, List.infix_cons_iff]

/-- The word cannot begin in the text: no end of the text has it in front, or goes on as it. -/
def Apart (w p : List Char) : Prop := ∀ e ∈ p.tails, e ≠ [] → ¬ e <+: w ∧ ¬ w <+: e

instance : Decidable (Apart w p) :=
  inferInstanceAs (Decidable (∀ e ∈ p.tails, e ≠ [] → ¬ e <+: w ∧ ¬ w <+: e))

/-- **A word that cannot begin in a text** is found behind it, or not at all. -/
theorem infix_append_iff (h : Apart w p) : w <:+: p ++ cs ↔ w <:+: cs := by
  induction p with
  | nil => rfl
  | cons c p ih =>
      rw [Apart, List.tails_cons, List.forall_mem_cons] at h
      obtain ⟨hhere, htails⟩ := h
      obtain ⟨hon, hin⟩ := hhere (List.cons_ne_nil _ _)
      rw [List.cons_append, List.infix_cons_iff, ih htails]
      refine ⟨fun h => h.resolve_left fun hbegin => ?_, .inr⟩
      -- a word that begins here ends here, or goes on behind
      rcases List.prefix_or_prefix_of_prefix hbegin (List.prefix_append (c :: p) cs) with h | h
      · exact hin h
      · exact hon h

/-! ### Letter by letter -/

/-- A letter that no small sigma is, is itself. -/
theorem eq_of_unended (hc : (unended c).toNat < 0x80) : unended c = c := by
  unfold unended at hc ⊢
  split
  · rename_i h
    rw [if_pos h] at hc
    exact absurd hc (by decide)
  · rfl

theorem unended_of_ascii (hc : c.toNat < 0x80) : unended c = c := by
  refine if_neg fun h => ?_
  rw [h] at hc
  exact absurd hc (by decide)

/-- Words of ASCII letters are found whichever small sigma stands in a text. -/
theorem infix_map_unended_iff (hw : ∀ c ∈ w, c.toNat < 0x80) :
    w <:+: ls.map unended ↔ w <:+: ls := by
  constructor
  · rintro ⟨a, b, hab⟩
    obtain ⟨l, b', hl, hl', -⟩ := List.map_eq_append_iff.mp hab.symm
    obtain ⟨a', w', rfl, -, hw'⟩ := List.map_eq_append_iff.mp hl'
    have hsame : w'.map unended = w' := by
      refine (List.map_congr_left fun c hc => ?_).trans (List.map_id w')
      exact eq_of_unended (hw _ (hw' ▸ List.mem_map_of_mem hc))
    rw [hl, ← hw', hsame]
    exact ⟨a', b', rfl⟩
  · intro h
    have hsame : w.map unended = w :=
      (List.map_congr_left fun c hc => unended_of_ascii (hw c hc)).trans (List.map_id w)
    rw [← hsame]
    exact h.map unended

/-- **Lower case has the words** of ASCII letters that it has letter by letter, -/
theorem infix_lowercase_iff (hw : ∀ c ∈ w, c.toNat < 0x80) :
    w <:+: lowercase cs ↔ w <:+: cs.flatMap lowerChar := by
  rw [← infix_map_unended_iff hw, map_unended_lowercase, infix_map_unended_iff hw]

/-- and a text in front, where no such word can begin, makes no difference. -/
theorem infix_lowercase_append_iff (hw : ∀ c ∈ w, c.toNat < 0x80)
    (h : Apart w (p.flatMap lowerChar)) : w <:+: lowercase (p ++ cs) ↔ w <:+: lowercase cs := by
  rw [infix_lowercase_iff hw, List.flatMap_append, infix_append_iff h, infix_lowercase_iff hw]

/-- A character has the small form of its ASCII small letter. -/
theorem lowerChar_toLower (c : Char) : lowerChar c.toLower = lowerChar c := by
  by_cases hc : 0x41 ≤ c.toNat ∧ c.toNat ≤ 0x5a
  · have hcapital : ∀ n < 26,
        lowerChar (Char.ofNat (0x41 + n)).toLower = lowerChar (Char.ofNat (0x41 + n)) := by decide
    have hnth := hcapital (c.toNat - 0x41) (by omega)
    rwa [show 0x41 + (c.toNat - 0x41) = c.toNat by omega, Char.ofNat_toNat] at hnth
  · have hsame : c.toLower = c := dif_neg hc
    rw [hsame]

theorem toLower_eq_iff : s.toLower = t.toLower ↔
    s.toList.map Char.toLower = t.toList.map Char.toLower := by
  show s.map Char.toLower = t.map Char.toLower ↔ _
  rw [← String.toList_inj, String.toList_map, String.toList_map]

/-- Nor does the case of ASCII letters make a difference. -/
theorem infix_lowercase_of_toLower (hw : ∀ c ∈ w, c.toNat < 0x80) (h : s.toLower = t.toLower) :
    w <:+: lowercase s.toList ↔ w <:+: lowercase t.toList := by
  have hletters (cs : List Char) :
      (cs.map Char.toLower).flatMap lowerChar = cs.flatMap lowerChar := by
    rw [List.flatMap_map]
    exact List.flatMap_congr fun c _ => lowerChar_toLower c
  rw [infix_lowercase_iff hw, infix_lowercase_iff hw, ← hletters, toLower_eq_iff.mp h, hletters]

end Text

namespace Database

namespace Kind

variable {low low' : List Char} {k : Kind} {w : String}

/-- The kinds that keywords tell, the one that goes first in front. -/
def ranked : List Kind := [.uniqueViolation, .foreignKeyViolation, .locked, .timeout]

/-- The keywords of a kind. -/
def keywords : Kind → List String
  | .uniqueViolation => ["unique", "duplicate"]
  | .foreignKeyViolation => ["foreign key"]
  | .locked => ["deadlock", "database is locked"]
  | .timeout => ["timeout"]
  | _ => []

/-- A keyword of the kind is in a text. -/
def Shows (low : List Char) (k : Kind) : Prop := ∃ w ∈ k.keywords, w.toList <:+: low

/-- The first kind that shows in a text, or unknown. -/
inductive Tells (low : List Char) : Kind → Prop
  | first {before after : List Kind} {k : Kind} (hranked : ranked = before ++ k :: after)
      (hk : Shows low k) (hbefore : ∀ j ∈ before, ¬ Shows low j) : Tells low k
  | nothing (hnone : ∀ j ∈ ranked, ¬ Shows low j) : Tells low .unknown

theorem mentions_iff : mentions k.keywords low = true ↔ Shows low k := by
  rw [mentions, List.any_eq_true]
  exact exists_congr fun w => and_congr_right fun _ => Text.occursIn_iff

theorem not_mentions_iff : (!mentions k.keywords low) = true ↔ ¬ Shows low k := by
  rw [Bool.not_eq_true', ← Bool.not_eq_true, mentions_iff]

/-- The first kind that is found among the ranked ones is the one that a text tells. -/
theorem tells_iff :
    Tells low k ↔ (ranked.find? fun j => mentions j.keywords low).getD .unknown = k := by
  constructor
  · intro h
    cases h with
    | first hranked hk hbefore =>
        have hfind : (ranked.find? fun j => mentions j.keywords low) = some k :=
          List.find?_eq_some_iff_append.mpr ⟨mentions_iff.mpr hk, _, _, hranked,
            fun j hj => not_mentions_iff.mpr (hbefore j hj)⟩
        rw [hfind, Option.getD_some]
    | nothing hnone =>
        have hfind : (ranked.find? fun j => mentions j.keywords low) = none :=
          List.find?_eq_none.mpr fun j hj => mentions_iff.not.mpr (hnone j hj)
        rw [hfind, Option.getD_none]
  · rintro rfl
    cases h : ranked.find? fun j => mentions j.keywords low with
    | none => exact .nothing fun j hj => mentions_iff.not.mp (List.find?_eq_none.mp h j hj)
    | some k =>
        obtain ⟨hk, before, after, hranked, hbefore⟩ := List.find?_eq_some_iff_append.mp h
        exact .first hranked (mentions_iff.mp hk) fun j hj => not_mentions_iff.mp (hbefore j hj)

theorem ofText_eq (text : List Char) :
    ofText text =
      (ranked.find? fun j => mentions j.keywords (Text.lowercase text)).getD .unknown := by
  simp only [ofText, ranked, keywords, List.find?_cons, List.find?_nil]
  cases mentions ["unique", "duplicate"] (Text.lowercase text) with
  | true => rfl
  | false =>
      cases mentions ["foreign key"] (Text.lowercase text) with
      | true => rfl
      | false =>
          cases mentions ["deadlock", "database is locked"] (Text.lowercase text) with
          | true => rfl
          | false => cases mentions ["timeout"] (Text.lowercase text) <;> rfl

/-- A text tells the kind that is found in it. -/
theorem ofText_eq_iff {text : List Char} : ofText text = k ↔ Tells (Text.lowercase text) k := by
  rw [tells_iff, ofText_eq]

theorem Tells.of_shows (h : ∀ j, Shows low j ↔ Shows low' j) (hk : Tells low k) :
    Tells low' k := by
  cases hk with
  | first hranked hk hbefore =>
      exact .first hranked ((h _).mp hk) fun j hj => (h j).not.mp (hbefore j hj)
  | nothing hnone => exact .nothing fun j hj => (h j).not.mp (hnone j hj)

/-- Texts with the same keywords tell the same. -/
theorem tells_congr (h : ∀ j : Kind, ∀ w ∈ j.keywords, w.toList <:+: low ↔ w.toList <:+: low') :
    Tells low k ↔ Tells low' k := by
  have hshows (j : Kind) : Shows low j ↔ Shows low' j :=
    exists_congr fun w => and_congr_right fun hw => h j w hw
  exact ⟨.of_shows hshows, .of_shows fun j => (hshows j).symm⟩

/-- Every keyword. -/
def words : List String := ranked.flatMap keywords

theorem mem_words (hw : w ∈ k.keywords) : w ∈ words := by
  cases k <;> revert w <;> decide

theorem ascii_of_mem_keywords (hw : w ∈ k.keywords) : ∀ c ∈ w.toList, c.toNat < 0x80 := by
  have hall : (words.all fun w => w.toList.all fun c => c.toNat < 0x80) = true := by decide
  simp only [List.all_eq_true, decide_eq_true_iff] at hall
  exact hall w (mem_words hw)

end Kind

namespace Error

variable {v v' : String → Error} {m m' w : String} {k : Kind}

/-- The errors whose wording is searched for keywords. -/
def searched : List (String → Error) := [.execution, .query, .custom]

/-- What stands in front of the messages of these errors. -/
def fronts : List String := ["Execution Error: ", "Query Error: ", "Custom Error: "]

/-- No keyword begins in front of a message. -/
theorem apart_of_mem_fronts :
    ∀ p ∈ fronts, ∀ w ∈ Kind.words, Text.Apart w.toList (p.toList.flatMap Text.lowerChar) := by
  decide +kernel

theorem mem_searched : v ∈ searched ↔ v = execution ∨ v = query ∨ v = custom := by
  simp [searched]

/-- The wording of such an error has the message behind one of these. -/
theorem exists_front (hv : v ∈ searched) (m : String) : ∃ p ∈ fronts, (v m).text = p ++ m := by
  rcases mem_searched.mp hv with rfl | rfl | rfl
  · exact ⟨"Execution Error: ", by decide, rfl⟩
  · exact ⟨"Query Error: ", by decide, rfl⟩
  · exact ⟨"Custom Error: ", by decide, rfl⟩

theorem kind_of_mem_searched (hv : v ∈ searched) (m : String) :
    (v m).kind = Kind.ofText (v m).text.toList := by
  rcases mem_searched.mp hv with rfl | rfl | rfl <;> rfl

/-- **The message has the keywords** of the wording. -/
theorem infix_of_mem_searched (hv : v ∈ searched) (hw : w ∈ k.keywords) :
    w.toList <:+: Text.lowercase (v m).text.toList ↔ w.toList <:+: Text.lowercase m.toList := by
  obtain ⟨p, hp, htext⟩ := exists_front hv m
  rw [htext, String.toList_append, Text.infix_lowercase_append_iff (Kind.ascii_of_mem_keywords hw)
    (apart_of_mem_fronts p hp w (Kind.mem_words hw))]

/-- **The message tells the kind** of an error that is searched. -/
theorem kind_eq_iff_tells (hv : v ∈ searched) :
    (v m).kind = k ↔ Kind.Tells (Text.lowercase m.toList) k := by
  rw [kind_of_mem_searched hv, Kind.ofText_eq_iff]
  exact Kind.tells_congr fun _ _ => infix_of_mem_searched hv

/-- Two errors that are searched have one kind for one message. -/
theorem kind_eq_kind (hv : v ∈ searched) (hv' : v' ∈ searched) (m : String) :
    (v m).kind = (v' m).kind := by
  rw [kind_eq_iff_tells hv, ← kind_eq_iff_tells hv']

/-- The case of ASCII letters makes no difference to the kind, -/
theorem kind_of_toLower (hv : v ∈ searched) (h : m.toLower = m'.toLower) :
    (v m).kind = (v m').kind := by
  rw [kind_eq_iff_tells hv, Kind.tells_congr fun _ _ hw =>
    Text.infix_lowercase_of_toLower (Kind.ascii_of_mem_keywords hw) h, ← kind_eq_iff_tells hv]

/-- nor to that of a lost connection. -/
theorem kind_connection_of_toLower (h : m.toLower = m'.toLower) :
    (connection m).kind = (connection m').kind := by
  have hmentions : Kind.mentions Kind.timeout.keywords (Text.lowercase m.toList) =
      Kind.mentions Kind.timeout.keywords (Text.lowercase m'.toList) := by
    rw [Bool.eq_iff_iff, Kind.mentions_iff, Kind.mentions_iff]
    exact exists_congr fun w => and_congr_right fun hw =>
      Text.infix_lowercase_of_toLower (Kind.ascii_of_mem_keywords hw) h
  rw [kind, kind, show ["timeout"] = Kind.timeout.keywords from rfl, hmentions]

/-- No other error is taken for a lost race. -/
theorem exists_searched_of_isUniqueViolation {e : Error} (h : e.isUniqueViolation = true) :
    ∃ v ∈ searched, ∃ m, e = v m := by
  rw [isUniqueViolation_iff] at h
  cases e with
  | execution m => exact ⟨execution, mem_searched.mpr (.inl rfl), m, rfl⟩
  | query m => exact ⟨query, mem_searched.mpr (.inr (.inl rfl)), m, rfl⟩
  | custom m => exact ⟨custom, mem_searched.mpr (.inr (.inr rfl)), m, rfl⟩
  | connection m =>
      rw [kind] at h
      split at h <;> cases h
  | _ => cases h

/-- **The message tells the kind.**  The errors that are searched have one kind for one message.
Their wording has the keywords of the message and no others, and the first of them tells the kind.
The case of ASCII letters makes no difference, and no other error is taken for a lost race. -/
theorem kind_of_message :
    (∀ v ∈ searched, ∀ v' ∈ searched, ∀ m, (v m).kind = (v' m).kind) ∧
      (∀ v ∈ searched, ∀ m, ∀ k : Kind, ∀ w ∈ k.keywords,
        w.toList <:+: Text.lowercase (v m).text.toList ↔ w.toList <:+: Text.lowercase m.toList) ∧
      (∀ v ∈ searched, ∀ m k, (v m).kind = k ↔ Kind.Tells (Text.lowercase m.toList) k) ∧
      (∀ v ∈ Error.connection :: searched, ∀ m m' : String, m.toLower = m'.toLower →
        (v m).kind = (v m').kind) ∧
      ∀ e : Error, e.isUniqueViolation = true → ∃ v ∈ searched, ∃ m, e = v m := by
  refine ⟨fun _ hv _ => kind_eq_kind hv, fun _ hv _ _ _ => infix_of_mem_searched hv,
    fun _ hv _ _ => kind_eq_iff_tells hv, fun v hv m m' h => ?_,
    fun _ => exists_searched_of_isUniqueViolation⟩
  rcases List.mem_cons.mp hv with rfl | hv
  · exact kind_connection_of_toLower h
  · exact kind_of_toLower hv h

/-- A message with a sigma at the end of a word, and a keyword partly in capitals. -/
theorem kind_of_message_sigma :
    let m := "ΟΔΟΣ DUPLIcate key"
    Text.lowercase m.toList = "οδος duplicate key".toList ∧
      Kind.Tells (Text.lowercase m.toList) .uniqueViolation ∧
      (execution m).kind = .uniqueViolation ∧ (query m).kind = (custom m).kind ∧
      (custom m).kind = (custom "ΟΔΟΣ Duplicate KEY").kind ∧
      ∃ v ∈ searched, ∃ m', execution m = v m' := by
  intro m
  obtain ⟨hsame, -, htells, hcase, hrace⟩ := kind_of_message
  have hexec : execution ∈ searched := mem_searched.mpr (.inl rfl)
  have hquery : query ∈ searched := mem_searched.mpr (.inr (.inl rfl))
  have hcustom : custom ∈ searched := mem_searched.mpr (.inr (.inr rfl))
  have hlow : Text.lowercase m.toList = "οδος duplicate key".toList := by decide +kernel
  have hfirst : Kind.Tells (Text.lowercase m.toList) .uniqueViolation := by
    rw [hlow]
    exact @Kind.Tells.first _ [] _ _ rfl
      ⟨"duplicate", by decide, "οδος ".toList, " key".toList, by decide⟩ (List.forall_mem_nil _)
  have hkind : (execution m).kind = .uniqueViolation := (htells _ hexec m _).mpr hfirst
  exact ⟨hlow, hfirst, hkind, hsame _ hquery _ hcustom m,
    hcase _ (List.mem_cons_of_mem _ hcustom) m _ (Text.toLower_eq_iff.mpr (by decide)),
    hrace _ ((isUniqueViolation_iff _).mpr hkind)⟩

end Error

end Database

end ImportTracking
