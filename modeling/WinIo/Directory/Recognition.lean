import WinIo.Directory.Ownership

/-!
# Who recognises a directory change

A packet is recognised by the address of `ov_`, which a move leaves behind. The
packet of a watch in flight finds the object that started it as long as this one
is not moved from, assigned over or destroyed.
-/

namespace WinIo.Directory

open Foundation

/-- The object at an address is moved from, assigned over by another one or destroyed. -/
def Action.Disturbs (action : Action) (address : Nat) : Prop :=
  match action with
  | .moveConstruct origin _ => address = origin
  | .moveAssign origin destination =>
      origin ≠ destination ∧ (address = origin ∨ address = destination)
  | .destroy ended => address = ended
  | _ => False

namespace State

/-- The watch was started and its packet was not taken from the port. -/
def InFlight (state : State) (watch : Watch) : Prop :=
  watch ∈ state.outstanding ∨ ∃ packet ∈ state.port, packet.watch = some watch

/-- `is_directory_change` of the object at the address. -/
def Accepts (state : State) (address : Nat) (entry : PortEntry) : Prop :=
  ∃ object, state.objects address = some object ∧ object.isDirectoryChange address entry = true

/-- The object at the address has the buffer, the directory and the key of the watch. -/
def Holds (state : State) (address : Nat) (watch : Watch) : Prop :=
  ∃ object, state.objects address = some object ∧ object.buffer = watch.buffer ∧
    object.directory = watch.directory ∧ object.dirKey = watch.key

/-- Exactly one object accepts the entry, and it is the one that holds the watch. -/
def SoleAcceptor (state : State) (watch : Watch) (entry : PortEntry) : Prop :=
  ∃ address, ∀ other, (state.Accepts other entry ↔ other = address) ∧
    (state.Holds other watch ↔ other = address)

/-- The packets of the watches in flight are accepted by their holders, foreign packets by no
object, and a holder returns a completed set of changes as such. -/
structure Recognised (state : State) : Prop where
  outstanding : ∀ watch ∈ state.outstanding, ∀ bytesTransferred,
    state.SoleAcceptor watch (watch.entry bytesTransferred)
  completed : ∀ packet ∈ state.port, ∀ watch, packet.watch = some watch →
    state.SoleAcceptor watch packet.entry
  foreign : ∀ packet ∈ state.port, packet.watch = none →
    ∀ address, ¬ state.Accepts address packet.entry
  returned : ∀ packet ∈ state.port, ∀ watch address object, packet.watch = some watch →
    state.objects address = some object → state.Holds address watch →
      packet.entry.bytesTransferred ≠ 0 →
        object.waitImpl address (portWait (some packet)).1 =
          .directoryChanges ⟨watch.buffer, packet.entry.bytesTransferred.toUInt64⟩

end State

/-- No object with a watch in flight is moved from, assigned over or destroyed. -/
def Undisturbed (taken : Transition State Label) : Prop :=
  ∀ watch, taken.source.InFlight watch → ¬ taken.label.action.Disturbs watch.address

/-- The entry of a packet is that of its watch; a posted one points to no watcher. -/
def Packet.Genuine (packet : Packet) : Prop :=
  match packet.watch with
  | some watch => packet.entry = watch.entry packet.entry.bytesTransferred
  | none => ∀ address, packet.entry.overlapped ≠ .ov address

namespace State

variable {source target : State} {label : Label} {watch : Watch}

/-- What is true of the watches in any execution. -/
structure Watched (state : State) : Prop where
  genuine : ∀ packet ∈ state.port, packet.Genuine
  directory : ∀ watch, state.InFlight watch → ∃ number, watch.directory = .value number

/-- Each watch in flight is held by the object it points to. -/
def Tended (state : State) : Prop :=
  ∀ watch, state.InFlight watch → state.Holds watch.address watch

theorem of_accepts {address : Nat} {bytesTransferred : UInt32}
    (accepts : source.Accepts address (watch.entry bytesTransferred)) :
    address = watch.address := by
  obtain ⟨object, _, accepted⟩ := accepts
  have same := (Bool.and_eq_true_iff.mp accepted).2
  exact (Pointer.ov.inj (beq_iff_eq.mp same)).symm

/-- The sole acceptor is the object that the watch points to. -/
theorem SoleAcceptor.holds {bytesTransferred : UInt32}
    (sole : source.SoleAcceptor watch (watch.entry bytesTransferred)) :
    source.Holds watch.address watch := by
  obtain ⟨address, sole⟩ := sole
  have here := of_accepts ((sole address).1.mpr rfl)
  exact here ▸ (sole address).2.mpr rfl

/-- The holder of a watch accepts its packets, and no other object does. -/
theorem Held.soleAcceptor (held : source.Held) {number : Nat}
    (directory : watch.directory = .value number) (holds : source.Holds watch.address watch)
    (bytesTransferred : UInt32) :
    source.SoleAcceptor watch (watch.entry bytesTransferred) := by
  refine ⟨watch.address, fun other => ⟨⟨of_accepts, ?_⟩, ?_, ?_⟩⟩
  · rintro rfl
    obtain ⟨object, here, _, _, key⟩ := holds
    refine ⟨object, here, ?_⟩
    rw [DirectoryChanges.isDirectoryChange, Watch.entry, key, beq_self_eq_true, beq_self_eq_true,
      Bool.and_self]
  · intro another
    obtain ⟨present, there, _, same, _⟩ := another
    obtain ⟨object, here, _, directory', _⟩ := holds
    exact held.distinct other watch.address number _ _ there here (same.trans directory)
      (directory'.trans directory)
  · rintro rfl
    exact holds

/-- The port gives the data of a watch's packet, whatever its error. -/
theorem portWait_data {packet : Packet} {bytesTransferred : UInt32}
    (entry : packet.entry = watch.entry bytesTransferred) :
    (portWait (some packet)).1 = some packet.entry := by
  have present : packet.entry.overlapped ≠ .null := by
    rw [entry]
    exact Pointer.noConfusion
  rw [portWait]
  split
  · rfl
  · rfl

theorem InFlight.entry (watched : source.Watched) {packet : Packet} (member : packet ∈ source.port)
    (completes : packet.watch = some watch) :
    packet.entry = watch.entry packet.entry.bytesTransferred := by
  have genuine := watched.genuine packet member
  rw [Packet.Genuine, completes] at genuine
  exact genuine

/-- Objects that tend their watches recognise them. -/
theorem Tended.recognised (tended : source.Tended) (wellformed : source.Wellformed)
    (watched : source.Watched) : source.Recognised where
  outstanding := by
    intro watch member bytesTransferred
    obtain ⟨number, directory⟩ := watched.directory watch (Or.inl member)
    exact wellformed.held.soleAcceptor directory (tended watch (Or.inl member)) bytesTransferred
  completed := by
    intro packet member watch completes
    obtain ⟨number, directory⟩ := watched.directory watch (Or.inr ⟨packet, member, completes⟩)
    rw [InFlight.entry watched member completes]
    exact wellformed.held.soleAcceptor directory
      (tended watch (Or.inr ⟨packet, member, completes⟩)) packet.entry.bytesTransferred
  foreign := by
    intro packet member posted address accepts
    have genuine := watched.genuine packet member
    rw [Packet.Genuine, posted] at genuine
    obtain ⟨object, _, accepted⟩ := accepts
    exact genuine address (beq_iff_eq.mp (Bool.and_eq_true_iff.mp accepted).2)
  returned := by
    intro packet member watch address object completes here holds nonzero
    have inFlight : source.InFlight watch := Or.inr ⟨packet, member, completes⟩
    obtain ⟨number, directory⟩ := watched.directory watch inFlight
    have entry := InFlight.entry watched member completes
    obtain ⟨holder, sole⟩ := wellformed.held.soleAcceptor directory (tended watch inFlight)
      packet.entry.bytesTransferred
    cases (sole address).2.mp holds
    obtain ⟨present, there, accepted⟩ := (sole address).1.mpr rfl
    cases here.symm.trans there
    obtain ⟨_, again, buffer, _, _⟩ := holds
    cases here.symm.trans again
    have valid : object.isValidDirectoryChange address packet.entry = true := by
      rw [DirectoryChanges.isValidDirectoryChange, entry, accepted, Bool.true_and]
      exact bne_iff_ne.mpr nonzero
    rw [portWait_data entry, DirectoryChanges.waitImpl, if_pos valid, buffer]

theorem Moves.objects_of_undisturbed (moved : source.Moves label target) {address : Nat}
    {object : DirectoryChanges} (here : source.objects address = some object)
    (undisturbed : ¬ label.action.Disturbs address) :
    target.objects address = some object := by
  have elsewhere : ∀ {other : Nat}, source.objects other = none → address ≠ other :=
    fun free same => nomatch (same ▸ free).symm.trans here
  cases moved with
  | borrowed free => exact (setObject_of_ne (elsewhere free)).trans here
  | made free => exact (setObject_of_ne (elsewhere free)).trans here
  | moved _ free =>
      exact (setObject_of_ne (elsewhere free)).trans ((setObject_of_ne undisturbed).trans here)
  | assigned different _ ends =>
      have notOrigin : address ≠ _ := fun same => undisturbed ⟨different, Or.inl same⟩
      have notDestination : address ≠ _ := fun same => undisturbed ⟨different, Or.inr same⟩
      exact (setObject_of_ne notDestination).trans ((setObject_of_ne notOrigin).trans
        ((ends.objects_of_ne notDestination).trans here))
  | destroyed ends => exact (ends.objects_of_ne undisturbed).trans here
  | callerOpened => exact here
  | unassociated => exact here
  | unopened => exact here
  | lost => exact here
  | refused => exact here
  | started => exact here
  | unwatched => exact here
  | kept => exact here
  | completed => exact here
  | posted => exact here
  | waited => exact here
  | dequeued => exact here

theorem Ends.objects_self {address : Nat} (ends : source.Ends address target) :
    target.objects address = none := by
  cases ends with
  | owner => exact setObject_self
  | unopened => exact setObject_self
  | other => exact setObject_self

theorem Ends.port_eq {address : Nat} (ends : source.Ends address target) :
    target.port = source.port := by
  cases ends with
  | owner => rfl
  | unopened => rfl
  | other => rfl

theorem Ends.inFlight_iff {address : Nat} (ends : source.Ends address target) :
    target.InFlight watch ↔ source.InFlight watch := by
  cases ends with
  | owner => exact Iff.rfl
  | unopened => exact Iff.rfl
  | other => exact Iff.rfl

/-- A watch in flight was in flight before, or an object has just started it for what it holds. -/
theorem Moves.of_inFlight (moved : source.Moves label target) (held : source.Held)
    (inFlight : target.InFlight watch) :
    source.InFlight watch ∨
      (∃ number, watch.directory = .value number) ∧ source.Holds watch.address watch ∧
        ¬ label.action.Disturbs watch.address := by
  cases moved with
  | @started address object number opened key here directory found =>
      rcases inFlight with member | inPort
      · rcases List.mem_append.mp member with member | member
        · exact Or.inl (Or.inl member)
        · cases List.mem_singleton.mp member
          obtain ⟨_, same⟩ := (held.fits address object here).associated number directory
          have key' : key = object.dirKey :=
            Option.some.inj (congrArg Opening.key (Option.some.inj (found.symm.trans same)))
          exact Or.inr ⟨⟨number, directory⟩, ⟨object, here, rfl, rfl, key'.symm⟩, id⟩
      · exact Or.inl (Or.inr inPort)
  | completed found =>
      rcases inFlight with member | ⟨packet, member, completes⟩
      · exact Or.inl (Or.inl (List.mem_of_mem_eraseIdx member))
      · rcases List.mem_append.mp member with member | member
        · exact Or.inl (Or.inr ⟨packet, member, completes⟩)
        · cases List.mem_singleton.mp member
          cases completes
          exact Or.inl (Or.inl (List.mem_of_getElem? found))
  | posted =>
      rcases inFlight with member | ⟨packet, member, completes⟩
      · exact Or.inl (Or.inl member)
      · rcases List.mem_append.mp member with member | member
        · exact Or.inl (Or.inr ⟨packet, member, completes⟩)
        · cases List.mem_singleton.mp member
          exact nomatch completes
  | waited =>
      rcases inFlight with member | ⟨packet, member, completes⟩
      · exact Or.inl (Or.inl member)
      · exact Or.inl (Or.inr ⟨packet, List.mem_of_mem_tail member, completes⟩)
  | dequeued =>
      rcases inFlight with member | ⟨packet, member, completes⟩
      · exact Or.inl (Or.inl member)
      · exact Or.inl (Or.inr ⟨packet, List.mem_of_mem_tail member, completes⟩)
  | assigned different here ends => exact Or.inl (ends.inFlight_iff.mp inFlight)
  | destroyed ends => exact Or.inl (ends.inFlight_iff.mp inFlight)
  | callerOpened => exact Or.inl inFlight
  | borrowed => exact Or.inl inFlight
  | unassociated => exact Or.inl inFlight
  | unopened => exact Or.inl inFlight
  | lost => exact Or.inl inFlight
  | refused => exact Or.inl inFlight
  | made => exact Or.inl inFlight
  | unwatched => exact Or.inl inFlight
  | moved => exact Or.inl inFlight
  | kept => exact Or.inl inFlight

/-- The packets of the port were there before, complete a watch or were posted. -/
theorem Moves.of_mem_port (moved : source.Moves label target) {packet : Packet}
    (member : packet ∈ target.port) : packet ∈ source.port ∨ packet.Genuine := by
  cases moved with
  | completed found =>
      rcases List.mem_append.mp member with member | member
      · exact Or.inl member
      · cases List.mem_singleton.mp member
        exact Or.inr rfl
  | @posted _ _ foreign =>
      rcases List.mem_append.mp member with member | member
      · exact Or.inl member
      · cases List.mem_singleton.mp member
        apply Or.inr
        intro address
        cases foreign with
        | none => exact Pointer.noConfusion
        | some number => exact Pointer.noConfusion
  | waited => exact Or.inl (List.mem_of_mem_tail member)
  | dequeued => exact Or.inl (List.mem_of_mem_tail member)
  | assigned different here ends => exact Or.inl (ends.port_eq ▸ member)
  | destroyed ends => exact Or.inl (ends.port_eq ▸ member)
  | callerOpened => exact Or.inl member
  | borrowed => exact Or.inl member
  | unassociated => exact Or.inl member
  | unopened => exact Or.inl member
  | lost => exact Or.inl member
  | refused => exact Or.inl member
  | made => exact Or.inl member
  | started => exact Or.inl member
  | unwatched => exact Or.inl member
  | moved => exact Or.inl member
  | kept => exact Or.inl member

theorem Moves.watched (moved : source.Moves label target) (held : source.Held)
    (watched : source.Watched) : target.Watched := by
  constructor
  · intro packet member
    rcases moved.of_mem_port member with before | genuine
    · exact watched.genuine packet before
    · exact genuine
  · intro watch inFlight
    rcases moved.of_inFlight held inFlight with before | ⟨directory, _⟩
    · exact watched.directory watch before
    · exact directory

/-- A step that disturbs no watch leaves each watch with the object that tends it. -/
theorem Moves.tended (moved : source.Moves label target) (held : source.Held)
    (tended : source.Tended) (undisturbed : Undisturbed ⟨source, label, target⟩) :
    target.Tended := by
  intro watch inFlight
  have before : source.Holds watch.address watch ∧ ¬ label.action.Disturbs watch.address := by
    rcases moved.of_inFlight held inFlight with before | ⟨_, started⟩
    · exact ⟨tended watch before, undisturbed watch before⟩
    · exact started
  obtain ⟨⟨object, here, holds⟩, undisturbed⟩ := before
  exact ⟨object, moved.objects_of_undisturbed here undisturbed, holds⟩

theorem Recognised.tended (recognised : source.Recognised) (watched : source.Watched) :
    source.Tended := by
  intro watch inFlight
  rcases inFlight with member | ⟨packet, member, completes⟩
  · exact (recognised.outstanding watch member 0).holds
  · have sole := recognised.completed packet member watch completes
    rw [InFlight.entry watched member completes] at sole
    exact sole.holds

theorem not_holds_origin {origin destination : Nat} {object : DirectoryChanges}
    (different : origin ≠ destination) {number : Nat} (directory : watch.directory = .value number)
    (disturbed : watch.address = origin) :
    ¬ (source.transfer origin destination object).Holds watch.address watch := by
  intro holds
  obtain ⟨present, there, _, same, _⟩ := holds
  rw [disturbed] at there
  cases ((setObject_of_ne different).trans setObject_self).symm.trans there
  exact nomatch same.trans directory

/-- A watch that is disturbed stays in flight, and what it points to no longer holds its
directory. -/
theorem Moves.not_tended (moved : source.Moves label target) (held : source.Held)
    (inFlight : source.InFlight watch) {number : Nat} (directory : watch.directory = .value number)
    (holds : source.Holds watch.address watch) (disturbs : label.action.Disturbs watch.address) :
    target.InFlight watch ∧ ¬ target.Holds watch.address watch := by
  cases moved with
  | @moved origin destination object here free =>
      have different : origin ≠ destination := fun same => nomatch (same ▸ free).symm.trans here
      exact ⟨inFlight, not_holds_origin different directory disturbs⟩
  | @assigned origin destination object middle different here ends =>
      refine ⟨ends.inFlight_iff.mpr inFlight, ?_⟩
      rcases disturbs.2 with atOrigin | atDestination
      · exact not_holds_origin different directory atOrigin
      · intro again
        obtain ⟨present, there, _, same, _⟩ := again
        rw [atDestination] at there
        cases setObject_self.symm.trans there
        obtain ⟨holder, before, _, directory', _⟩ := holds
        exact different (held.distinct origin destination number _ _ here
          (atDestination ▸ before) (same.trans directory) (directory'.trans directory))
  | @destroyed address _ ends =>
      refine ⟨ends.inFlight_iff.mpr inFlight, ?_⟩
      intro again
      obtain ⟨present, there, _⟩ := again
      have gone : target.objects watch.address = none := by
        rw [show watch.address = address from disturbs]
        exact ends.objects_self
      exact nomatch gone.symm.trans there
  | kept => exact absurd rfl disturbs.1
  | callerOpened => exact disturbs.elim
  | borrowed => exact disturbs.elim
  | unassociated => exact disturbs.elim
  | unopened => exact disturbs.elim
  | lost => exact disturbs.elim
  | refused => exact disturbs.elim
  | made => exact disturbs.elim
  | started => exact disturbs.elim
  | unwatched => exact disturbs.elim
  | completed => exact disturbs.elim
  | posted => exact disturbs.elim
  | waited => exact disturbs.elim
  | dequeued => exact disturbs.elim

theorem watched_initial : State.initial.Watched ∧ State.initial.Tended := by
  have none : ∀ watch, ¬ State.initial.InFlight watch := by
    intro watch inFlight
    rcases inFlight with member | ⟨_, member, _⟩
    · exact nomatch member
    · exact nomatch member
  exact ⟨⟨fun _ member => (nomatch member), fun watch inFlight => (none watch inFlight).elim⟩,
    fun watch inFlight => (none watch inFlight).elim⟩

end State

/-- The packet of each watch in flight is accepted by exactly one object, which holds the
watch's buffer, directory and key, and foreign packets by none, in all states of exactly the
executions in which no object with a watch in flight is moved from, assigned over or
destroyed. -/
theorem recognised_iff {path : List (Transition State Label)} {state : State}
    (run : system.Path path state) :
    (∀ taken ∈ path, taken.target.Recognised) ↔
      System.Along (fun _ taken => Undisturbed taken) path := by
  constructor
  · intro recognised
    have everywhere : (System.Along (fun _ taken => Undisturbed taken) path) ∧
        state.Wellformed ∧ state.Watched ∧ state.Tended := by
      induction run with
      | start initial =>
          refine ⟨.nil, .of_path (.start initial), ?_⟩
          rw [initial]
          exact State.watched_initial
      | @snoc path source target label previous stepped ih =>
          obtain ⟨along, wellformed, watched, tended⟩ := ih fun taken member =>
            recognised taken (List.mem_append_left _ member)
          obtain ⟨action, stepped⟩ := stepped
          have moved := next_moves stepped
          have after := moved.watched wellformed.held watched
          have tended' := (recognised ⟨source, label, target⟩
            (List.mem_append_right _ (List.mem_singleton.mpr rfl))).tended after
          refine ⟨along.concat fun watch inFlight disturbs => ?_, wellformed.moves moved, after,
            tended'⟩
          obtain ⟨number, directory⟩ := watched.directory watch inFlight
          obtain ⟨still, lost⟩ := moved.not_tended wellformed.held inFlight directory
            (tended watch inFlight) disturbs
          exact lost (tended' watch still)
    exact everywhere.1
  · intro along
    have everywhere : state.Wellformed ∧ state.Watched ∧ state.Tended ∧
        ∀ taken ∈ path, taken.target.Recognised := by
      refine System.Path.guarded (motive := fun path state => state.Wellformed ∧ state.Watched ∧
        state.Tended ∧ ∀ taken ∈ path, taken.target.Recognised) ?_ ?_ run along
      · intro start initial
        refine ⟨.of_path (.start initial), ?_⟩
        rw [initial]
        exact ⟨State.watched_initial.1, State.watched_initial.2, fun _ member => (nomatch member)⟩
      · intro path source label target before stepped undisturbed
        obtain ⟨wellformed, watched, tended, recognised⟩ := before
        obtain ⟨action, stepped⟩ := stepped
        have moved := next_moves stepped
        have wellformed' := wellformed.moves moved
        have watched' := moved.watched wellformed.held watched
        have tended' := moved.tended wellformed.held tended undisturbed
        refine ⟨wellformed', watched', tended', fun taken member => ?_⟩
        rcases List.mem_append.mp member with member | member
        · exact recognised taken member
        · cases List.mem_singleton.mp member
          exact tended'.recognised wellformed' watched'
    exact everywhere.2.2.2

/-- A watch that is started after a move is recognised; its object is moved on once its packet
was taken. -/
theorem recognised_iff_watched :
    ∃ path state, system.Path path state ∧
      (∃ taken ∈ path, taken.source.outstanding = [⟨1, 5, some 4096, .value 7⟩]) ∧
        ((∀ taken ∈ path, taken.target.Recognised) ↔
          System.Along (fun _ taken => Undisturbed taken) path) := by
  obtain ⟨path, state, run, started⟩ : ∃ path state, system.Path path state ∧
      ∃ taken ∈ path, taken.source.outstanding = [⟨1, 5, some 4096, .value 7⟩] :=
    System.exists_path_of_replay
      [.callerOpens 7, .makeFromHandle 0 (.value 7) .sample .done, .moveConstruct 0 1,
        .startWatch 1 .done, .post 3 5 (some 9), .complete 0 64 0, .wait 1, .wait 1,
        .moveAssign 1 0] (by decide)
  exact ⟨path, state, run, started, recognised_iff run⟩

/-- After a move of the object that started a watch no object accepts the packet. -/
theorem not_recognised_moved :
    ∃ path state, system.Path path state ∧
      ∃ taken ∈ path, (∀ address, ¬ taken.target.Accepts address ⟨64, 5, .ov 0⟩) ∧
        ¬ taken.target.Recognised := by
  obtain ⟨path, state, run, taken, member, port, moved⟩ : ∃ path state, system.Path path state ∧
      ∃ taken ∈ path,
        taken.target.port = [⟨⟨64, 5, .ov 0⟩, 0, some ⟨0, 5, some 4096, .value 7⟩⟩] ∧
          (taken.target.objects 0).map DirectoryChanges.dirKey = some 0 :=
    System.exists_path_of_replay
      [.makeFromName 0 .sample 0 (.opened 7) .done, .startWatch 0 .done, .moveConstruct 0 1,
        .complete 0 64 0] (by decide)
  have nobody : ∀ address, ¬ taken.target.Accepts address ⟨64, 5, .ov 0⟩ := by
    intro address accepts
    obtain ⟨object, here, accepted⟩ := accepts
    obtain ⟨key, pointer⟩ := Bool.and_eq_true_iff.mp accepted
    cases beq_iff_eq.mp pointer
    rw [here, Option.map_some, Option.some.injEq] at moved
    rw [moved] at key
    exact nomatch key
  refine ⟨path, state, run, taken, member, nobody, fun recognised => ?_⟩
  obtain ⟨address, sole⟩ := recognised.completed _ (port ▸ List.mem_singleton.mpr rfl) _ rfl
  exact nobody address ((sole address).1.mpr rfl)

end WinIo.Directory
