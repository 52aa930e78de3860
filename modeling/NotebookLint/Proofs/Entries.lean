import Mathlib.Data.List.Induction
import Mathlib.Data.List.Nodup
import NotebookLint.Entries

/-!
# What insertions settle on

A sequence of insertions leaves every name in the place of its first insertion with the value of
its last one. This determines the entries, so that it can stand for the insertions wherever a
repeated name is spoken of.
-/

namespace NotebookLint.Entries

variable {α : Type}

/-- The value of the last pair with a name. -/
def lastValue? (name : String) (pairs : List (String × α)) : Option α :=
  (pairs.reverse.find? fun pair => pair.1 = name).map Prod.snd

/-- Every name stands in the place of its first pair, with the value of its last pair. -/
structure Settles (pairs : List (String × α)) (entries : Entries α) : Prop where
  /-- The names, each in its first place. -/
  names_eq : names entries = (pairs.map Prod.fst).eraseDups
  /-- The values, each the last one of its name. -/
  get?_eq : ∀ name, get? name entries = lastValue? name pairs

/-- Insertions one after another settle on what the last of them makes of the others. -/
theorem ofList_concat (pairs : List (String × α)) (pair : String × α) :
    ofList (pairs ++ [pair]) = put pair.1 pair.2 (ofList pairs) := by
  rw [ofList, List.foldl_append]
  rfl

/-- A last pair gives its name its value and leaves the others. -/
theorem lastValue?_concat (name : String) (pairs : List (String × α)) (pair : String × α) :
    lastValue? name (pairs ++ [pair]) =
      if pair.1 = name then some pair.2 else lastValue? name pairs := by
  rw [lastValue?, List.reverse_concat, List.find?_cons]
  by_cases h : pair.1 = name <;> simp [h, lastValue?]

/-- Insertions settle on the entries that they leave. -/
theorem settles_ofList (pairs : List (String × α)) : Settles pairs (ofList pairs) := by
  induction pairs using List.reverseRecOn with
  | nil => exact ⟨rfl, fun _ => rfl⟩
  | append_singleton pairs pair ih =>
    constructor
    · rw [ofList_concat, names_put, ih.names_eq, List.map_append, List.eraseDups_append]
      by_cases h : pair.1 ∈ pairs.map Prod.fst <;>
        simp [h, List.removeAll, List.mem_eraseDups, List.eraseDups_cons]
    · intro name
      rw [ofList_concat, lastValue?_concat]
      by_cases h : pair.1 = name
      · rw [if_pos h, ← h, get?_put_self]
      · rw [if_neg h, get?_put_of_ne _ _ (Ne.symm h), ih.get?_eq]

/-- A name that has no place has no value. -/
theorem get?_of_not_mem {name : String} {entries : Entries α} (h : name ∉ names entries) :
    get? name entries = none := by
  induction entries with
  | nil => rfl
  | cons entry rest ih =>
    rw [names, List.map_cons, List.mem_cons, not_or] at h
    obtain ⟨hentry, hrest⟩ := h
    rw [get?, if_neg (Ne.symm hentry), ih hrest]

/-- A new name is put at the end. -/
theorem put_of_not_mem {name : String} {value : α} {entries : Entries α} (h : name ∉ names entries) :
    put name value entries = entries ++ [(name, value)] := by
  induction entries with
  | nil => rfl
  | cons entry rest ih =>
    rw [names, List.map_cons, List.mem_cons, not_or] at h
    obtain ⟨hentry, hrest⟩ := h
    rw [put, if_neg (Ne.symm hentry), ih hrest, List.cons_append]

/-- Putting a name keeps the names distinct. -/
theorem nodup_names_put {name : String} {value : α} {entries : Entries α}
    (h : (names entries).Nodup) : (names (put name value entries)).Nodup := by
  rw [names_put]
  split
  · exact h
  · rename_i hnew
    exact List.nodup_append.mpr ⟨h, List.nodup_singleton _, fun a ha b hb heq =>
      hnew (List.mem_singleton.mp hb ▸ heq ▸ ha)⟩

/-- Insertions leave distinct names. -/
theorem nodup_names_ofList (pairs : List (String × α)) : (names (ofList pairs)).Nodup := by
  induction pairs using List.reverseRecOn with
  | nil => exact List.nodup_nil
  | append_singleton pairs pair ih =>
    rw [ofList_concat]
    exact nodup_names_put ih

/-- Entries with distinct names are determined by the names and their values. -/
theorem eq_of_names_of_get? {first second : Entries α} (hnames : names first = names second)
    (hdistinct : (names first).Nodup) (hvalues : ∀ name, get? name first = get? name second) :
    first = second := by
  induction first generalizing second with
  | nil => exact (List.map_eq_nil_iff.mp hnames.symm).symm
  | cons entry first ih =>
    cases second with
    | nil => cases hnames
    | cons other second =>
      obtain ⟨hname, hrest⟩ := List.cons.inj hnames
      obtain ⟨hnew, hdistinct⟩ := List.nodup_cons.mp hdistinct
      have hvalue : entry.2 = other.2 := by
        have := hvalues entry.1
        rw [get?, get?, if_pos rfl, if_pos hname.symm] at this
        exact Option.some.inj this
      obtain rfl : entry = other := Prod.ext hname hvalue
      refine congrArg (entry :: ·) (ih hrest hdistinct fun name => ?_)
      by_cases h : entry.1 = name
      · have hother : name ∉ names second := by rw [names, ← hrest]; exact h ▸ hnew
        rw [get?_of_not_mem (h ▸ hnew), get?_of_not_mem hother]
      · simpa [get?, h] using hvalues name

/-- What insertions settle on is what they leave. -/
theorem settles_iff {pairs : List (String × α)} {entries : Entries α} :
    Settles pairs entries ↔ entries = ofList pairs := by
  constructor
  · intro h
    have hleft := settles_ofList pairs
    have hnames : names (ofList pairs) = names entries := hleft.names_eq.trans h.names_eq.symm
    exact (eq_of_names_of_get? hnames (nodup_names_ofList pairs) fun name =>
      (hleft.get?_eq name).trans (h.get?_eq name).symm).symm
  · rintro rfl
    exact settles_ofList pairs

/-- Insertions of distinct names leave the pairs as they are. -/
theorem ofList_of_nodup {pairs : List (String × α)} (h : (names pairs).Nodup) : ofList pairs = pairs := by
  induction pairs using List.reverseRecOn with
  | nil => rfl
  | append_singleton pairs pair ih =>
    rw [names, List.map_append] at h
    obtain ⟨hpairs, -, hnew⟩ := List.nodup_append.mp h
    rw [ofList_concat, ih hpairs]
    exact put_of_not_mem fun hmem => hnew _ hmem _ (List.mem_singleton.mpr rfl) rfl

end NotebookLint.Entries
