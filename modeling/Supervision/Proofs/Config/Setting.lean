import Supervision.Config.Setting

/-!
# Laying settings over settings

A setting under a plain key replaces what was there (`layer_plain`), unless it is a table: then its entries are laid over the
entries of what was there (`layer_table`), each of them in its turn (`overlayAll_plain`).

Where the keys of what is laid over are distinct, what stands under a key afterwards depends on that key alone: it is what was
laid over under that key (`overlaid`), and where nothing was, what stood there before (`lookup_overlayAll`).
-/

namespace Supervision

/-- A key that is one step of a path, and in lower case. -/
def PlainKey (key : String) : Prop :=
  SettingPath.ofKey key = ⟨key, []⟩ ∧ Text.lowerCase key = key

instance : DecidablePred PlainKey := fun _ => inferInstanceAs (Decidable (_ ∧ _))

namespace Setting

/-- A setting is no table. -/
def NoTable (s : Setting) : Prop :=
  ∀ origin entries, s ≠ .table origin entries

/-- What is laid over a table under a key in lower case takes the place of what was there. -/
theorem overlay_plain {key : String} (hkey : Text.lowerCase key = key) {s : Setting} (hs : s.NoTable) (origin : Option String)
    (entries : List (String × Setting)) : overlay key (.table origin entries) s = .table origin (putEntry entries key s) := by
  rw [overlay, hkey]
  · rfl
  · exact hs

/-- Entries that are no tables take the places of what was under their keys. -/
theorem overlayAll_plain {incoming : List (String × Setting)}
    (h : ∀ entry ∈ incoming, Text.lowerCase entry.1 = entry.1 ∧ entry.2.NoTable) (origin : Option String) :
    ∀ entries, overlayAll (.table origin entries) incoming =
      .table origin (incoming.foldl (fun entries entry => putEntry entries entry.1 entry.2) entries) := by
  induction incoming with
  | nil => intro entries; rfl
  | cons entry incoming ih =>
    intro entries
    obtain ⟨⟨hkey, hs⟩, hrest⟩ := List.forall_mem_cons.1 h
    rw [overlayAll, overlay_plain hkey hs, ih hrest, List.foldl_cons]

/-- A source is laid over settings key by key. -/
theorem layer_cons (settings : Setting) (key : String) (s : Setting) (rest : List (String × Setting)) :
    layer settings ((key, s) :: rest) = layer ((SettingPath.ofKey key).set s settings) rest := rfl

/-- A setting of a source under a plain key takes the place of what was there, if it is no table. -/
theorem layer_plain {key : String} (hkey : PlainKey key) {s : Setting} (hs : s.NoTable) (origin : Option String)
    (entries rest : List (String × Setting)) :
    layer (.table origin entries) ((key, s) :: rest) = layer (.table origin (putEntry entries key s)) rest := by
  rw [layer_cons, hkey.1, SettingPath.set, SettingPath.setFrom, overlay_plain hkey.2 hs]

/-- A table of a source under a plain key is laid over what was there. -/
theorem layer_table {key : String} (hkey : PlainKey key) (origin origin' : Option String)
    (entries incoming rest : List (String × Setting)) :
    layer (.table origin entries) ((key, .table origin' incoming) :: rest) =
      layer (.table origin (putEntry entries key (overlayAll ((entries.lookup key).getD emptyTable) incoming))) rest := by
  rw [layer_cons, hkey.1, SettingPath.set, SettingPath.setFrom, overlay, hkey.2]
  rfl

/-! ## What stands under a key -/

/-- What a setting leaves in the place of another one: a table is laid over the entries of what was there, anything else stands
there alone. -/
def overlaid (old : Option Setting) : Setting → Setting
  | table _ incoming => overlayAll (old.getD emptyTable) incoming
  | s => s

/-- A setting is a table. -/
def IsTable (s : Setting) : Prop :=
  ∃ origin, s = .table origin s.entries

@[simp] theorem entries_withEntries (entries : List (String × Setting)) (s : Setting) : (s.withEntries entries).entries = entries := by
  cases s <;> rfl

theorem isTable_withEntries (entries : List (String × Setting)) (s : Setting) : (s.withEntries entries).IsTable := by
  cases s <;> exact ⟨_, rfl⟩

/-- A lookup compares the first key, then goes on behind it. -/
theorem lookup_cons_eq_ite {α : Type} (key : String) (a : α) (entries : List (String × α)) (k : String) :
    List.lookup k ((key, a) :: entries) = if k = key then some a else entries.lookup k := by
  rw [List.lookup_cons]
  by_cases hk : k = key
  · rw [if_pos hk, beq_iff_eq.2 hk]
  · rw [if_neg hk, beq_eq_false_iff_ne.2 hk]

/-- Nothing stands under a key that no entry has. -/
theorem lookup_eq_none {α : Type} {key : String} {entries : List (String × α)} (h : key ∉ entries.map (·.1)) :
    entries.lookup key = none := by
  refine List.lookup_eq_none_iff.2 fun entry hentry => bne_iff_ne.2 fun hkey => h ?_
  exact List.mem_map.2 ⟨entry, hentry, hkey.symm⟩

/-- Putting a setting under a key changes what stands under that key only. -/
theorem lookup_putEntry (entries : List (String × Setting)) (key : String) (s : Setting) (k : String) :
    (putEntry entries key s).lookup k = if k = key then some s else entries.lookup k := by
  induction entries with
  | nil => rw [putEntry, lookup_cons_eq_ite]
  | cons entry entries ih =>
    obtain ⟨key', old⟩ := entry
    rw [putEntry]
    by_cases hkey : key' = key
    · by_cases hk : k = key <;> simp [lookup_cons_eq_ite, hkey, hk]
    · rw [if_neg hkey, lookup_cons_eq_ite, lookup_cons_eq_ite, ih]
      by_cases hk : k = key'
      · rw [if_pos hk, if_pos hk, if_neg fun h => hkey (hk.symm.trans h)]
      · rw [if_neg hk, if_neg hk]

variable {key : String}

/-- A setting under a key in lower case is put in the place of what was there, with what it keeps of that. -/
theorem overlay_eq (hkey : Text.lowerCase key = key) (target s : Setting) :
    overlay key target s = target.withEntries (putEntry target.entries key (overlaid (target.entries.lookup key) s)) := by
  cases s with
  | table origin incoming => rw [overlay, hkey]; rfl
  | scalar origin value => rw [overlay, hkey]; rfl; exact fun _ _ h => by cases h
  | array origin items => rw [overlay, hkey]; rfl; exact fun _ _ h => by cases h

/-- Laying a setting over a key changes what stands under that key only. -/
theorem lookup_overlay (hkey : Text.lowerCase key = key) (target s : Setting) (k : String) :
    (overlay key target s).entries.lookup k =
      if k = key then some (overlaid (target.entries.lookup key) s) else target.entries.lookup k := by
  rw [overlay_eq hkey, entries_withEntries, lookup_putEntry]

/-- Entries with distinct keys in lower case: under each of them stands what it leaves of what was there, and under any other
key what was there. -/
theorem lookup_overlayAll {incoming : List (String × Setting)} (hlower : ∀ entry ∈ incoming, Text.lowerCase entry.1 = entry.1)
    (hdistinct : (incoming.map (·.1)).Nodup) (target : Setting) (k : String) :
    (overlayAll target incoming).entries.lookup k =
      ((incoming.lookup k).map (overlaid (target.entries.lookup k))).or (target.entries.lookup k) := by
  induction incoming generalizing target with
  | nil => rfl
  | cons entry incoming ih =>
    obtain ⟨key, s⟩ := entry
    obtain ⟨hkey, hlower⟩ := List.forall_mem_cons.1 hlower
    obtain ⟨hfresh, hdistinct⟩ := List.nodup_cons.1 hdistinct
    rw [overlayAll, ih hlower hdistinct, lookup_overlay hkey, lookup_cons_eq_ite]
    by_cases hk : k = key
    · -- No later entry has this key again.
      rw [if_pos hk, if_pos hk, hk, lookup_eq_none hfresh]
      rfl
    · rw [if_neg hk, if_neg hk]

/-- Whatever is laid over a table leaves a table. -/
theorem isTable_overlayAll {target : Setting} (htarget : target.IsTable) {incoming : List (String × Setting)}
    (hlower : ∀ entry ∈ incoming, Text.lowerCase entry.1 = entry.1) : (overlayAll target incoming).IsTable := by
  induction incoming generalizing target with
  | nil => exact htarget
  | cons entry incoming ih =>
    obtain ⟨hkey, hlower⟩ := List.forall_mem_cons.1 hlower
    have hover : (overlay entry.1 target entry.2).IsTable := by
      rw [overlay_eq hkey]
      exact isTable_withEntries _ _
    exact ih hover hlower

/-- A source whose keys are plain is laid over settings entry by entry. -/
theorem layer_eq_overlayAll {source : List (String × Setting)} (hplain : ∀ entry ∈ source, PlainKey entry.1) (settings : Setting) :
    layer settings source = overlayAll settings source := by
  induction source generalizing settings with
  | nil => rfl
  | cons entry source ih =>
    obtain ⟨hkey, hplain⟩ := List.forall_mem_cons.1 hplain
    rw [layer_cons, hkey.1, ih hplain]
    rfl

end Setting

end Supervision
