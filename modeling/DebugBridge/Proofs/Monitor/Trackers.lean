import DebugBridge.Proofs.Monitor.TaskMap

/-!
# One tracker for each device

A task that has not been told to stop is one of those that the monitor keeps for its device, and at
most one of them is a tracker (`Assigned`).
-/

namespace DebugBridge

namespace System

variable {s s' : System}

/-- The tasks that have not been told to stop are kept for their devices, at most one tracker for
each device. -/
structure Assigned (s : System) : Prop where
  kept_of_live : ∀ {number t}, s.tasks[number]? = some t → t.aborted = false →
    ∃ numbers, s.kept.get? t.serial = some numbers ∧ number ∈ numbers
  started : ∀ {serial numbers}, s.kept.get? serial = some numbers →
    ∀ number ∈ numbers, number < s.tasks.length
  single : ∀ {serial numbers}, s.kept.get? serial = some numbers →
    ∀ {i j t t'}, i ∈ numbers → j ∈ numbers → s.tasks[i]? = some t → s.tasks[j]? = some t' →
      t.isTracker = true → t'.isTracker = true → i = j

theorem Assigned.start (m : MonitorSettings) : Assigned (start m) where
  kept_of_live h := by simp [System.start] at h
  started h := by simp [System.start] at h
  single h := by simp [System.start] at h

/-! ## Starting and stopping -/

theorem serial_of_mem_tasksFor {m : MonitorSettings} {serial : String} {t : Task}
    (h : t ∈ tasksFor m serial) : t.serial = serial := by
  rcases eq_of_mem_tasksFor h with rfl | rfl <;> rfl

/-- A device gets at most one tracker. -/
theorem eq_of_isTracker_tasksFor {m : MonitorSettings} {serial : String} {i j : Nat} {t t' : Task}
    (hi : (tasksFor m serial)[i]? = some t) (hj : (tasksFor m serial)[j]? = some t')
    (ht : t.isTracker = true) (ht' : t'.isTracker = true) : i = j := by
  have hlast : ∀ {k x}, (tasksFor m serial)[k]? = some x → x.isTracker = true →
      k + 1 = (tasksFor m serial).length := by
    intro k x hk hx
    unfold tasksFor at hk ⊢
    split_ifs at hk ⊢
    · match k with
      | 0 =>
        obtain rfl : Task.setup m serial = x := by simpa using hk
        cases hx
      | 1 => rfl
      | k + 2 => simp at hk
    · match k with
      | 0 =>
        obtain rfl : Task.setup m serial = x := by simpa using hk
        cases hx
      | k + 1 => simp at hk
    · match k with
      | 0 => rfl
      | k + 1 => simp at hk
    · simp at hk
  have := hlast hi ht
  have := hlast hj ht'
  omega

theorem getElem?_abort (s : System) (numbers : List Nat) (i : Nat) :
    (s.abort numbers).tasks[i]? = (s.tasks[i]?).map fun t =>
      if numbers.contains i then { t with aborted := true } else t := by
  simp [abort, List.getElem?_zipIdx, Function.comp_def]

/-- Whoever has not been told to stop by now was not told before. -/
theorem getElem?_of_abort {numbers : List Nat} {i : Nat} {t : Task}
    (h : (s.abort numbers).tasks[i]? = some t) :
    ∃ old, s.tasks[i]? = some old ∧ t.serial = old.serial ∧ t.isTracker = old.isTracker ∧
      (t.aborted = false → old.aborted = false ∧ i ∉ numbers) := by
  rw [getElem?_abort] at h
  obtain ⟨old, hold, rfl⟩ := Option.map_eq_some_iff.1 h
  refine ⟨old, hold, ?_⟩
  split_ifs with hi
  · exact ⟨rfl, rfl, nofun⟩
  · exact ⟨rfl, rfl, fun h => ⟨h, by simpa using hi⟩⟩

theorem length_abort (s : System) (numbers : List Nat) :
    (s.abort numbers).tasks.length = s.tasks.length := by
  simp [abort]

theorem Assigned.bring (h : Assigned s) {serial : String} (hnone : s.kept.get? serial = none) :
    Assigned { s with
      kept := s.kept.insert serial
        ((List.range (tasksFor s.settings serial).length).map (s.tasks.length + ·))
      tasks := s.tasks ++ tasksFor s.settings serial } where
  kept_of_live {number t} ht hlive := by
    simp only [Dict.get?_insert]
    simp only at ht
    by_cases hnumber : number < s.tasks.length
    -- An old task works for another device, since no tasks are kept for this one.
    · rw [List.getElem?_append_left hnumber] at ht
      obtain ⟨numbers, hnumbers, hmem⟩ := h.kept_of_live ht hlive
      have hne : t.serial ≠ serial := by
        rintro rfl
        rw [hnone] at hnumbers
        cases hnumbers
      exact ⟨numbers, by rw [if_neg hne, hnumbers], hmem⟩
    · rw [List.getElem?_append_right (by omega)] at ht
      have hserial := serial_of_mem_tasksFor (List.mem_of_getElem? ht)
      have hlt := (List.getElem?_eq_some_iff.1 ht).1
      refine ⟨_, by rw [if_pos hserial], List.mem_map.2 ⟨_, List.mem_range.2 hlt, ?_⟩⟩
      omega
  started {k numbers} hk number hnumber := by
    simp only [Dict.get?_insert] at hk
    simp only [List.length_append]
    split_ifs at hk
    · obtain rfl := Option.some.inj hk
      obtain ⟨i, hi, rfl⟩ := List.mem_map.1 hnumber
      have := List.mem_range.1 hi
      omega
    · have := h.started hk number hnumber
      omega
  single {k numbers} hk {i j t t'} hi hj hti htj ht ht' := by
    simp only [Dict.get?_insert] at hk
    split_ifs at hk
    · obtain rfl := Option.some.inj hk
      obtain ⟨i, -, rfl⟩ := List.mem_map.1 hi
      obtain ⟨j, -, rfl⟩ := List.mem_map.1 hj
      simp only [List.getElem?_append_right (Nat.le_add_right _ _), Nat.add_sub_cancel_left]
        at hti htj
      rw [eq_of_isTracker_tasksFor hti htj ht ht']
    · simp only [List.getElem?_append_left (h.started hk i hi)] at hti
      simp only [List.getElem?_append_left (h.started hk j hj)] at htj
      exact h.single hk hi hj hti htj ht ht'

theorem Assigned.take (h : Assigned s) {serial : String} {numbers : List Nat}
    (hsome : s.kept.get? serial = some numbers) :
    Assigned { s.abort numbers with kept := s.kept.erase serial } where
  kept_of_live {number t} ht hlive := by
    obtain ⟨old, hold, hserial, -, hlive'⟩ := getElem?_of_abort ht
    obtain ⟨hlive', hnot⟩ := hlive' hlive
    obtain ⟨numbers', hnumbers', hmem⟩ := h.kept_of_live hold hlive'
    have hne : t.serial ≠ serial := by
      rw [hserial]
      rintro rfl
      rw [hsome] at hnumbers'
      obtain rfl := Option.some.inj hnumbers'
      exact hnot hmem
    refine ⟨numbers', ?_, hmem⟩
    rw [Dict.get?_erase, if_neg hne, hserial, hnumbers']
  started {k numbers'} hk number hnumber := by
    rw [Dict.get?_erase] at hk
    split_ifs at hk
    rw [length_abort]
    exact h.started hk number hnumber
  single {k numbers'} hk {i j t t'} hi hj hti htj ht ht' := by
    rw [Dict.get?_erase] at hk
    split_ifs at hk
    obtain ⟨oldi, holdi, -, htracker, -⟩ := getElem?_of_abort hti
    obtain ⟨oldj, holdj, -, htracker', -⟩ := getElem?_of_abort htj
    exact h.single hk hi hj holdi holdj (htracker ▸ ht) (htracker' ▸ ht')

/-- Once all tasks that are kept have been told to stop, all tasks have. -/
theorem Assigned.quit (h : Assigned s) :
    ∀ t ∈ (s.abort (s.kept.entries.flatMap Prod.snd)).tasks, t.aborted = true := by
  intro t ht
  obtain ⟨number, hnumber⟩ := List.mem_iff_getElem?.1 ht
  obtain ⟨old, hold, -, -, hlive⟩ := getElem?_of_abort hnumber
  cases haborted : t.aborted with
  | true => rfl
  | false =>
    obtain ⟨hold', hnotin⟩ := hlive haborted
    obtain ⟨numbers, hnumbers, hmem⟩ := h.kept_of_live hold hold'
    exact absurd (List.mem_flatMap.2 ⟨_, Dict.mem_entries_iff.2 hnumbers, hmem⟩) hnotin

/-! ## The invariant is kept -/

/-- It says nothing of what tasks have to do. -/
theorem Assigned.of_badges (h : Assigned s) (hkept : s'.kept = s.kept)
    (hbadges : s'.tasks.map Task.badge = s.tasks.map Task.badge) : Assigned s' := by
  have hold : ∀ {i : Nat} {t : Task}, s'.tasks[i]? = some t → ∃ old, s.tasks[i]? = some old ∧
      t.serial = old.serial ∧ t.isTracker = old.isTracker ∧ t.aborted = old.aborted := by
    intro i t ht
    have hbadge : (s.tasks.map Task.badge)[i]? = some t.badge := by
      rw [← hbadges, List.getElem?_map, ht, Option.map_some]
    rw [List.getElem?_map] at hbadge
    obtain ⟨old, hold, heq⟩ := Option.map_eq_some_iff.1 hbadge
    simp only [Task.badge, Prod.mk.injEq] at heq
    exact ⟨old, hold, heq.1.symm, heq.2.1.symm, heq.2.2.symm⟩
  have hlength : s'.tasks.length = s.tasks.length := by
    simpa using congrArg List.length hbadges
  refine ⟨fun {number t} ht hlive => ?_, fun {serial numbers} hk => ?_,
    fun {serial numbers} hk {i j t t'} hi hj hti htj ht ht' => ?_⟩
  · obtain ⟨old, hold, hserial, -, haborted⟩ := hold ht
    rw [hkept, hserial]
    exact h.kept_of_live hold (haborted ▸ hlive)
  · rw [hlength]
    exact h.started (hkept ▸ hk)
  · obtain ⟨oldi, holdi, -, htracker, -⟩ := hold hti
    obtain ⟨oldj, holdj, -, htracker', -⟩ := hold htj
    exact h.single (hkept ▸ hk) hi hj holdi holdj (htracker ▸ ht) (htracker' ▸ ht')

theorem Assigned.works (h : Assigned s) (hw : Works s s') : Assigned s' := by
  cases hw with
  | @handle e rest hagenda =>
    have hhandle : Assigned (s.handle e).1 :=
      handle_induction h (fun _ hnone => h.bring hnone) (fun _ _ hsome => h.take hsome) e
    exact hhandle.of_badges rfl rfl
  | quit =>
    have hall := h.quit
    refine ⟨fun ht hlive => ?_, nofun, nofun⟩
    rw [hall _ (List.mem_of_getElem? ht)] at hlive
    cases hlive
  | clearClients | release | applyList | clear | giveUp | retry | finish =>
    exact h.of_badges rfl rfl

theorem Assigned.hears (h : Assigned s) {a : Signal} (hh : Hears s a s') : Assigned s' := by
  cases hh <;> exact h.of_badges rfl rfl

theorem Assigned.taskWork (h : Assigned s) {number : Nat} (hs : s.taskWork number = some s') :
    Assigned s' := by
  obtain ⟨t, job, rest, w, ht, -, -, rfl⟩ := taskWork_cases hs
  exact h.of_badges rfl (badges_set ht rfl)

theorem Assigned.taskHear (h : Assigned s) {number : Nat} {a : Answer}
    (hs : s.taskHear number a = some s') : Assigned s' := by
  obtain ⟨t, t', ht, -, ha, rfl⟩ := taskHear_cases hs
  obtain ⟨job, rest, jobs, failures, -, -, rfl⟩ := hear_cases ha
  exact h.of_badges rfl (badges_set ht rfl)

theorem Assigned.taskEnd (h : Assigned s) {number : Nat} (hs : s.taskEnd number = some s') :
    Assigned s' := by
  obtain ⟨t, ht, -, rfl⟩ := taskEnd_cases hs
  exact h.of_badges rfl (badges_set ht rfl)

/-- Two trackers that have not been told to stop work for two devices. -/
theorem Assigned.eq_of_serial_eq (h : Assigned s) {i j : Nat} {t t' : Task}
    (hi : s.tasks[i]? = some t) (hj : s.tasks[j]? = some t') (ht : t.isTracker = true)
    (ht' : t'.isTracker = true) (hlive : t.aborted = false) (hlive' : t'.aborted = false)
    (hserial : t.serial = t'.serial) : i = j := by
  obtain ⟨numbers, hnumbers, hmem⟩ := h.kept_of_live hi hlive
  obtain ⟨numbers', hnumbers', hmem'⟩ := h.kept_of_live hj hlive'
  rw [hserial, hnumbers'] at hnumbers
  obtain rfl := Option.some.inj hnumbers
  exact h.single hnumbers' hmem hmem' hi hj ht ht'

end System

end DebugBridge
