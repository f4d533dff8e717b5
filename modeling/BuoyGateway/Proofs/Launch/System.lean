import BuoyGateway.Proofs.Disk.View
import BuoyGateway.Proofs.Launch.Relay
import BuoyGateway.Shell.Execution

/-!
# What a launch comes to

Whatever the programs of a machine do, a launch leaves the machine where it was, and a directory that
is not there costs a note in the log and nothing else. A program of the shell that was run has a code
of one octet, unless a signal ended it, and the lines that are handed over are those of all that was
written on either channel. One that could not be run hands over nothing and leaves the disk as it was.
-/

namespace BuoyGateway

namespace Machine

variable {ε : Type} {machine : Machine ε} {dir : String}

/-- A launch from a directory that is not there is noted, and then goes as from where the machine
is. -/
theorem launchOf_missing (programs : Programs) (invocation : Invocation) {e : SystemError}
    (h : machine.disk.locateDirectory dir = .error e)
    (hhere : machine.disk.locateDirectory "." = .ok machine.disk.current) :
    launchOf programs ⟨dir, invocation⟩ machine = launchOf programs ⟨".", invocation⟩
      (machine.note .error ("Error changing directory to: " ++ dir)) := by
  have hnoted : (machine.note .error ("Error changing directory to: " ++ dir)).disk =
      machine.disk := rfl
  simp only [launchOf, h, hnoted, hhere]

/-- A launch changes nothing of a machine but its disk, beyond a note. -/
theorem launchOf_frame (programs : Programs) (action : Action) (machine : Machine ε) :
    let after := (launchOf programs action machine).2
    after.disk.current = machine.disk.current ∧ after.outside = machine.outside ∧
      ∃ notes, after.log = machine.log ++ notes ∧ notes.length ≤ 1 := by
  unfold launchOf
  cases machine.disk.locateDirectory action.dir with
  | ok loc => exact ⟨rfl, rfl, [], (List.append_nil _).symm, Nat.zero_le 1⟩
  | error e => exact ⟨rfl, rfl, [_], rfl, Nat.le_refl 1⟩

end Machine

namespace Shell

def World.written (world : World) (channel : Channel) : List UInt8 :=
  ((world.inOrder.filter (fun w => w.channel = channel)).map Writing.octets).flatten

theorem brings_arrivals (world : World) (channel : Channel) :
    Output.Brings world.arrivals channel (world.written channel) := by
  refine ⟨_, rfl, ?_⟩
  have hpieces : ∀ writings : List Writing,
      (writings.map (fun w => Arrival.piece w.channel w.octets)).filter
          (fun a => a.channel = channel) =
        ((writings.filter (fun w => w.channel = channel)).map Writing.octets).map
          (.piece channel) := by
    intro writings
    induction writings with
    | nil => rfl
    | cons w writings ih =>
      by_cases hw : w.channel = channel
      · simp [hw, ih]
      · simp [hw, ih]
  rw [World.arrivals, List.filter_append, hpieces]
  cases channel <;> rfl

/-- Where a program can be called it runs: its code is one octet, or a signal ended it, and the lines
handed over are those of what was written on both channels, each channel's in their order. Where it
cannot be called nothing is handed over and the disk is as it was. -/
theorem execute_spec (disk : Disk) (invocation : Invocation) :
    let ran := execute disk invocation
    ran.2.current = disk.current ∧
      ((∃ call, callNamed (Process.initial disk []) usualPath (Process.ofPath invocation.program)
            (invocation.args.map Process.ofPath) = .ok call ∧
          let p := (follow disk call roundLimit []).2
          Output.Merges (Output.linesOf (p.world.written .output))
            (Output.linesOf (p.world.written .errors)) ran.1.lines ∧
          (ran.1.result = .ok .abnormal ∨
            ∃ code : Nat, ran.1.result = .ok (.exited code) ∧ code < 256)) ∨
        (∃ e, ran.1.result = .error e) ∧ ran.1.lines = [] ∧ ran.2 = disk) := by
  unfold execute
  split
  · exact ⟨rfl, Or.inr ⟨⟨_, rfl⟩, rfl, rfl⟩⟩
  dsimp only
  split
  · exact ⟨rfl, Or.inr ⟨⟨_, rfl⟩, rfl, rfl⟩⟩
  · next call hcall =>
    refine ⟨rfl, Or.inl ⟨call, hcall, Output.collect_merges (brings_arrivals _), ?_⟩⟩
    dsimp only [Report.ofArrivals]
    split
    · exact Or.inl rfl
    · exact Or.inr ⟨_, rfl, Nat.mod_lt _ (by decide)⟩

end Shell

/-- A launch that fails hands over nothing and leaves the disk as it was. -/
theorem Machine.launch_error {ε : Type} {action : Action} {machine : Machine ε} {e : SystemError}
    (h : (launch action machine).1.result = .error e) :
    (launch action machine).1.lines = [] ∧ (launch action machine).2.disk = machine.disk := by
  have hfailed : ∀ place : Location,
      let ran := Shell.execute ({ machine.disk with current := place } : Disk) action.invocation
      ran.1.result = .error e →
        ran.1.lines = [] ∧
          ({ ran.2 with current := machine.disk.current } : Disk) = machine.disk := by
    intro place ran hran
    obtain ⟨-, ⟨call, -, -, hended⟩ | ⟨-, hlines, hdisk⟩⟩ :=
      Shell.execute_spec { machine.disk with current := place } action.invocation
    · rcases hended with hended | ⟨code, hended, -⟩
      · exact absurd (hran.symm.trans hended) nofun
      · exact absurd (hran.symm.trans hended) nofun
    · exact ⟨hlines, by rw [hdisk]⟩
  unfold launch launchOf at h ⊢
  cases hplace : machine.disk.locateDirectory action.dir with
  | ok loc =>
    simp only [hplace] at h ⊢
    exact hfailed loc h
  | error _ =>
    simp only [hplace] at h ⊢
    exact hfailed machine.disk.current h

end BuoyGateway
