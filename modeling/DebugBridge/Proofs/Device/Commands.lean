import DebugBridge.Device.Handle

/-!
# Commands on devices

A command runs on a device that is known and usable, if the daemon grants it (`Device.Runs`). What comes
of a command that runs is what its receiver makes of the output; any other command fails before its
receiver hears anything.

Results: `Device.shell_of_runs`, `Device.shell_of_not_runs`.
-/

namespace DebugBridge

open Shell

variable {D S : Type} [Daemon D S]

theorem Desk.map_apply (f : α → β) (x : Desk D α) (site : Site D) :
    (f <$> x) site = ((x site).1.map f, (x site).2) := by
  simp only [Functor.map, OptionT.bind, OptionT.mk, Bind.bind, StateT.bind]
  rcases x site with ⟨_ | a, site'⟩ <;> rfl

theorem Desk.bind_apply {x : Desk D α} {site site' : Site D} {a : α} (h : x site = (some a, site'))
    (f : α → Desk D β) : (x >>= f) site = f a site' := by
  simp only [Bind.bind, OptionT.bind, OptionT.mk, StateT.bind]
  rw [h]

namespace Device

/-- A device runs a command: it is known and usable, and the daemon grants the command. What is
received then is `output`. -/
def Runs (d : Device) (command : String) (site : Site D) (output : Stream) : Prop :=
  d.ensureOnline site.registry = .ok () ∧
    ∃ session, (Net.converse (Call.requestFor d.serial (service d.serial command))
      site.daemon).1 = .ok ((), session, output)

variable {d : Device} {command : String} {site : Site D} {output : Stream}

theorem runs_of_grants (honline : d.ensureOnline site.registry = .ok ())
    (hgrant : Net.Grants site.daemon (service d.serial command) output) :
    d.Runs command site output := by
  obtain ⟨session, daemon, hconverse⟩ := Net.converse_of_grants hgrant d.serial
  exact ⟨honline, session, by rw [hconverse]⟩

/-- A command either runs, or fails before its receiver hears anything. -/
theorem shell_of_not_runs (h : ∀ output, ¬ d.Runs command site output) (limit : Duration)
    (r : Receiver σ) (s : σ) : ∃ e, (d.shell command limit r s site).1 = some (s, .error e) := by
  unfold shell ifOnline
  cases honline : d.ensureOnline site.registry with
  | error e => exact ⟨e, rfl⟩
  | ok _ =>
    rcases hconverse : Net.converse (Call.requestFor d.serial (service d.serial command))
      site.daemon with ⟨e | ⟨_, session, output⟩, daemon⟩
    · exact ⟨e, by simp only [run, hconverse]⟩
    · exact absurd ⟨honline, session, by rw [hconverse]⟩ (h output)

theorem run_of_runs (h : d.Runs command site output) (limit : Duration) (r : Receiver σ) (s : σ) :
    (run d.serial command limit r s site.daemon).1 =
      ((pump r .empty s output.ending (output.reads readSize)).1,
        (pump r .empty s output.ending (output.reads readSize)).2.result command limit) := by
  obtain ⟨-, session, hgranted⟩ := h
  obtain ⟨daemon, hconverse⟩ : ∃ daemon,
      Net.converse (Call.requestFor d.serial (service d.serial command)) site.daemon =
        (.ok ((), session, output), daemon) := ⟨_, Prod.ext hgranted rfl⟩
  simp only [run, hconverse]

/-- What comes of a command that runs. -/
theorem shell_of_runs (h : d.Runs command site output) (limit : Duration) (r : Receiver σ)
    (s : σ) :
    (d.shell command limit r s site).1 =
      match (pump r .empty s output.ending (output.reads readSize)).2.result command limit with
      | .ok () => some ((pump r .empty s output.ending (output.reads readSize)).1, .ok ())
      | .error (.failed e) =>
        some ((pump r .empty s output.ending (output.reads readSize)).1, .error e)
      | .error .waiting => none := by
  have hrun := run_of_runs h limit r s
  rcases hr : run d.serial command limit r s site.daemon with ⟨⟨s', result⟩, daemon⟩
  rw [hr] at hrun
  obtain ⟨rfl, rfl⟩ := Prod.mk.inj hrun
  unfold shell ifOnline
  rw [h.1]
  simp only [hr]
  cases (pump r .empty s output.ending (output.reads readSize)).2.result command limit with
  | ok _ => rfl
  | error stall => cases stall <;> rfl

end Device

end DebugBridge
