import ModuleGateway.Modules.HandlerThreads

/-! # The order in which commands are pushed

Both threads take the commands of a device from one queue, the oldest first, and push what was
generated after the lock was released. The order is kept when no thread pushes while the other one
is in possession of an older command of the same device.
-/
namespace ModuleGateway.Modules
open Structures Execution

variable {β : Type}

/-- Both were generated from commands of one device, this one from the older. -/
def Hand.isOlder (hand other : Hand β) : Bool :=
  hand.device.key = other.device.key && hand.number.any fun m => other.number.any fun n => m < n

namespace HandlerThreads

def forwardHand (s : HandlerThreads β) : Option (Hand β) :=
  match s.forwardThread with
  | .waiting => none
  | .acted hand => hand

/-- The numbers of the commands pushed to a device, in the order of the pushes. -/
def numbers (s : HandlerThreads β) (k : DeviceKey) : List ℕ :=
  (s.pushed.filter fun p => p.1 = k).map Prod.snd

/-- The thread that pushes leaves no older command of its device in the hand of the other one. -/
def pushesOldest (s : HandlerThreads β) (call : ModuleLibrary β × ThreadAction β) : Bool :=
  match call.2 with
  | .messages => s.statusHand.all fun hand => s.forwardHand.all fun other => !other.isOlder hand
  | .forwards => s.forwardHand.all fun hand => s.statusHand.all fun other => !other.isOlder hand
  | _ => true

/-! ## The invariant -/

def Holds (s : HandlerThreads β) (hand : Hand β) : Prop := s.statusHand = some hand ∨ s.forwardHand = some hand

structure Ordered (s : HandlerThreads β) : Prop where
  backed : ∀ k, s.handler.externalCommandQueue k <:+ s.accepted k
  increasing : ∀ k, (s.numbers k).Pairwise (· < ·)
  pushed : ∀ k, ∀ n ∈ s.numbers k, n < s.taken k
  hand : ∀ hand, s.Holds hand → ∀ n, hand.number = some n →
    n < s.taken hand.device.key ∧ ∀ m ∈ s.numbers hand.device.key, m < n
  distinct : ∀ a b, s.statusHand = some a → s.forwardHand = some b → a.device.key = b.device.key →
    ∀ n, a.number = some n → b.number ≠ some n

variable {s t : HandlerThreads β}

/-- The number of the front is that of the command that was accepted so. -/
theorem Ordered.nextNumber_accepted (hs : s.Ordered) {k : DeviceKey} {n : ℕ} (hn : s.nextNumber k = some n) :
    (s.handler.externalCommandQueue k).head? = (s.accepted k)[n]? := by
  unfold nextNumber taken at hn
  split at hn
  · cases hn
  · cases hn
    obtain ⟨older,h⟩ := hs.backed k
    have hlength : (s.accepted k).length - (s.handler.externalCommandQueue k).length = older.length := by
      rw [← h, List.length_append]
      omega
    rw [hlength, ← h, List.getElem?_append_right (le_refl _), Nat.sub_self, List.head?_eq_getElem?]

theorem Ordered.init : (init : HandlerThreads β).Ordered := by
  constructor
  · intro k
    exact List.nil_suffix
  · intro k
    exact List.Pairwise.nil
  · intro k n hn
    cases hn
  · rintro hand (h | h)
    · cases h
    · cases h
  · intro a b h
    cases h

/-- A command that a step took, as the next one of its device. -/
def Fresh (s t : HandlerThreads β) (hand : Hand β) : Prop :=
  ∀ n, hand.number = some n → n = s.taken hand.device.key ∧ n < t.taken hand.device.key

/-- A step that pushes nothing; what a thread takes is newer than all that was taken before. -/
theorem Ordered.advance (hs : s.Ordered) (hbacked : ∀ k, t.handler.externalCommandQueue k <:+ t.accepted k)
    (htaken : ∀ k, s.taken k ≤ t.taken k) (hpushed : t.pushed = s.pushed)
    (hstatus : ∀ hand, t.statusHand = some hand → s.statusHand = some hand ∨ s.Fresh t hand)
    (hforward : ∀ hand, t.forwardHand = some hand → s.forwardHand = some hand ∨ s.Fresh t hand)
    (hone : t.statusHand = s.statusHand ∨ t.forwardHand = s.forwardHand) : t.Ordered := by
  have hnumbers : ∀ k, t.numbers k = s.numbers k := by
    intro k
    unfold numbers
    rw [hpushed]
  have hhand : ∀ hand, t.Holds hand → s.Holds hand ∨ s.Fresh t hand := by
    rintro hand (h | h)
    · exact (hstatus hand h).imp_left .inl
    · exact (hforward hand h).imp_left .inr
  constructor
  · exact hbacked
  · intro k
    rw [hnumbers]
    exact hs.increasing k
  · intro k n hn
    rw [hnumbers] at hn
    exact lt_of_lt_of_le (hs.pushed k n hn) (htaken k)
  · intro hand hheld n hn
    rw [hnumbers]
    obtain hold | hfresh := hhand hand hheld
    · obtain ⟨hlt,hall⟩ := hs.hand hand hold n hn
      exact ⟨lt_of_lt_of_le hlt (htaken _),hall⟩
    · obtain ⟨rfl,hlt⟩ := hfresh n hn
      exact ⟨hlt,hs.pushed _⟩
  · intro a b ha hb hkey n hna hnb
    obtain hold | hfresh := hstatus a ha
    · obtain hold' | hfresh' := hforward b hb
      · exact hs.distinct a b hold hold' hkey n hna hnb
      · -- the older command was taken before
        have hlt := (hs.hand a (.inl hold) n hna).1
        have heq := (hfresh' n hnb).1
        rw [hkey] at hlt
        omega
    · obtain hsame | hsame := hone
      · have hlt := (hs.hand a (.inl (hsame ▸ ha)) n hna).1
        have heq := (hfresh n hna).1
        omega
      · have hlt := (hs.hand b (.inr (hsame ▸ hb)) n hnb).1
        have heq := (hfresh n hna).1
        rw [hkey] at heq
        omega

/-- A push; the commands that the threads still hold are no older. -/
theorem Ordered.push (hs : s.Ordered) {hand : Hand β} (hheld : s.Holds hand)
    (hqueue : ∀ k, t.handler.externalCommandQueue k = s.handler.externalCommandQueue k)
    (haccepted : t.accepted = s.accepted) (hpushed : t.pushed = (s.push hand).pushed)
    (hother : ∀ other, t.Holds other → s.Holds other ∧ other.isOlder hand = false ∧
      (other.device.key = hand.device.key → ∀ n, hand.number = some n → other.number ≠ some n))
    (hone : t.statusHand = none ∨ t.forwardHand = none) : t.Ordered := by
  have htaken : ∀ k, t.taken k = s.taken k := by
    intro k
    unfold taken
    rw [hqueue, haccepted]
  have hnumbers : ∀ k, t.numbers k = s.numbers k ++ if hand.device.key = k then hand.number.toList else [] := by
    intro k
    unfold numbers
    rw [hpushed, HandlerThreads.push, List.filter_append, List.map_append]
    congr 1
    cases hand.number with
    | none => simp
    | some n => by_cases hk : hand.device.key = k <;> simp [hk]
  have hnew : ∀ k n, n ∈ t.numbers k → n ∈ s.numbers k ∨ hand.device.key = k ∧ hand.number = some n := by
    intro k n hn
    rw [hnumbers, List.mem_append] at hn
    refine hn.imp_right ?_
    intro hn
    split at hn
    · rename_i hk
      exact ⟨hk,Option.mem_toList.mp hn⟩
    · cases hn
  constructor
  · intro k
    rw [hqueue, haccepted]
    exact hs.backed k
  · intro k
    rw [hnumbers, List.pairwise_append]
    refine ⟨hs.increasing k,?_,?_⟩
    · split
      · cases hand.number <;> simp
      · exact List.Pairwise.nil
    · intro m hm n hn
      split at hn
      · rename_i hk
        subst hk
        exact (hs.hand hand hheld n (Option.mem_toList.mp hn)).2 m hm
      · cases hn
  · intro k n hn
    rw [htaken]
    obtain hold | ⟨rfl,hnumber⟩ := hnew k n hn
    · exact hs.pushed k n hold
    · exact (hs.hand hand hheld n hnumber).1
  · intro other hholds n hn
    obtain ⟨hold,hyounger,hdifferent⟩ := hother other hholds
    obtain ⟨hlt,hall⟩ := hs.hand other hold n hn
    rw [htaken]
    refine ⟨hlt,?_⟩
    intro m hm
    obtain hm | ⟨hkey,hnumber⟩ := hnew _ m hm
    · exact hall m hm
    · have hle : ¬n < m := by
        intro h
        simp [Hand.isOlder, hkey, hn, hnumber, h] at hyounger
      have hne : n ≠ m := by
        rintro rfl
        exact hdifferent hkey.symm n hnumber hn
      omega
  · intro a b ha hb
    obtain h | h := hone
    · rw [h] at ha
      cases ha
    · rw [h] at hb
      cases hb

/-- A command is taken from the queue of a device, or none. -/
theorem Ordered.take (hs : s.Ordered) {device : DeviceIdentification} {p : Prop} [Decidable p]
    (hqueue : ∀ k, t.handler.externalCommandQueue k =
      if k = device.key ∧ p then (s.handler.externalCommandQueue k).tail else s.handler.externalCommandQueue k)
    (haccepted : t.accepted = s.accepted) (hpushed : t.pushed = s.pushed)
    (hstatus : ∀ hand, t.statusHand = some hand → s.statusHand = some hand ∨ s.TakenFrom device p hand)
    (hforward : ∀ hand, t.forwardHand = some hand → s.forwardHand = some hand ∨ s.TakenFrom device p hand)
    (hone : t.statusHand = s.statusHand ∨ t.forwardHand = s.forwardHand) : t.Ordered := by
  have hsuffix : ∀ k, t.handler.externalCommandQueue k <:+ s.handler.externalCommandQueue k := by
    intro k
    rw [hqueue]
    split
    · exact List.tail_suffix _
    · exact List.suffix_refl _
  have hfresh : ∀ hand, s.TakenFrom device p hand → s.Fresh t hand := by
    intro hand htaken n hn
    obtain ⟨hp,hnext⟩ := htaken.number n hn
    rw [htaken.owner]
    unfold nextNumber at hnext
    split at hnext
    · cases hnext
    · rename_i hnonempty
      refine ⟨(Option.some.inj hnext).symm,?_⟩
      have hlength := (hs.backed device.key).length_le
      have hpos : 0 < (s.handler.externalCommandQueue device.key).length := by
        rw [List.length_pos_iff]
        intro hnil
        simp [hnil] at hnonempty
      rw [← Option.some.inj hnext]
      unfold taken
      rw [hqueue, if_pos ⟨rfl,hp⟩, haccepted, List.length_tail]
      omega
  apply hs.advance
  · intro k
    rw [haccepted]
    exact (hsuffix k).trans (hs.backed k)
  · intro k
    have hlength := (hsuffix k).length_le
    unfold taken
    rw [haccepted]
    omega
  · exact hpushed
  · intro hand h
    exact (hstatus hand h).imp_right (hfresh hand)
  · intro hand h
    exact (hforward hand h).imp_right (hfresh hand)
  · exact hone

/-- A step that takes and pushes nothing; queues are left alone or lost. -/
theorem Ordered.quiet (hs : s.Ordered)
    (hqueue : ∀ k, t.handler.externalCommandQueue k = s.handler.externalCommandQueue k ∨
      t.handler.externalCommandQueue k = [])
    (haccepted : t.accepted = s.accepted) (hpushed : t.pushed = s.pushed) (hstatus : t.statusHand = s.statusHand)
    (hforward : ∀ hand, t.forwardHand = some hand → s.forwardHand = some hand) : t.Ordered := by
  apply hs.advance
  · intro k
    rw [haccepted]
    obtain h | h := hqueue k
    · rw [h]
      exact hs.backed k
    · rw [h]
      exact List.nil_suffix
  · intro k
    unfold taken
    rw [haccepted]
    obtain h | h := hqueue k
    · rw [h]
    · rw [h, List.length_nil]
      omega
  · exact hpushed
  · intro hand h
    exact .inl (hstatus ▸ h)
  · intro hand h
    exact .inl (hforward hand h)
  · exact .inl hstatus

variable [BufferType β] {moduleLibrary_ : ModuleLibrary β}

theorem Ordered.handleMessages (hs : s.Ordered) (hg : s.pushesOldest (moduleLibrary_,.messages) = true)
    (ht : s.handleMessages moduleLibrary_ = some t) : t.Ordered := by
  unfold HandlerThreads.handleMessages at ht
  split at ht
  · rename_i status device rc _
    split at ht
    · rename_i hand hhand
      cases ht
      refine hs.push (t := s.pushCommand hand rc) (.inl hhand) (fun _ => rfl) rfl rfl ?_ (.inl rfl)
      rintro other (h | h)
      · cases h
      · have hforward : s.forwardHand = some other := h
        refine ⟨.inr h,?_,?_⟩
        · simpa [pushesOldest, hhand, hforward] using hg
        · intro hkey
          exact hs.distinct hand other hhand h hkey.symm
    · rename_i hnone
      obtain ⟨module_,hm,rfl⟩ := Option.map_eq_some_iff.mp ht
      obtain ⟨hand,thread,heq,hcases⟩ := takeCommand_eq module_ s status device hnone
      rw [heq]
      apply hs.take (p := StatusAggregator.is_device_type_supported module_ device.deviceType ≠ .NOT_OK)
      · intro k
        have hentry := s.handler.entry_get_command module_ device k status
        exact ModuleHandler.externalCommandQueue_of_entry hentry fun d => (consumed_queue d module_ status _).1
      · rfl
      · rfl
      · intro taken htaken
        obtain ⟨taken',rfl,-,hfrom⟩ | ⟨rfl,-⟩ := hcases
        · cases htaken
          exact .inr hfrom
        · cases htaken
      · intro taken htaken
        exact .inl htaken
      · exact .inr rfl
  · rename_i hthread
    obtain ⟨handler,hhandler,rfl⟩ := Option.map_eq_some_iff.mp ht
    have hkeeps := ModuleHandler.handleMessages_keeps hhandler hthread
    exact hs.quiet (fun k => .inl (hkeeps.externalCommandQueue k)) rfl rfl rfl fun _ h => h

theorem Ordered.handleCommandForwards (hs : s.Ordered) (hg : s.pushesOldest (moduleLibrary_,.forwards) = true)
    (ht : s.handleCommandForwards moduleLibrary_ = some t) : t.Ordered := by
  unfold HandlerThreads.handleCommandForwards at ht
  split at ht
  · rename_i hand hacted
    cases ht
    cases hand with
    | none => exact hs.quiet (t := s.pushForwarded none) (fun _ => .inl rfl) rfl rfl rfl fun _ h => nomatch h
    | some hand =>
      have hhand : s.forwardHand = some hand := by
        unfold forwardHand
        rw [hacted]
      refine hs.push (t := s.pushForwarded (some hand)) (.inr hhand) (fun _ => rfl) rfl rfl ?_ (.inr rfl)
      rintro other (h | h)
      · have hstatus : s.statusHand = some other := h
        refine ⟨.inl h,?_,?_⟩
        · simpa [pushesOldest, hhand, hstatus] using hg
        · intro hkey n hn hother
          exact hs.distinct other hand h hhand hkey n hother hn
      · cases h
  · rename_i hwaiting
    split at ht
    · cases ht
    · rename_i deviceId _ _
      obtain ⟨-,rfl⟩ | ⟨module_,hand,hm,rfl,hfrom⟩ := takeForwarded_eq ht
      · exact hs.quiet (fun _ => .inl rfl) rfl rfl rfl fun _ h => nomatch h
      · apply hs.take (p := StatusAggregator.is_device_type_supported module_ deviceId.deviceType = .OK)
        · intro k
          have hentry := s.handler.entry_get_command_for_forwarding module_ deviceId k
          exact ModuleHandler.externalCommandQueue_of_entry hentry fun d => (consumed_queue d module_ _ _).1
        · rfl
        · rfl
        · intro taken htaken
          exact .inl htaken
        · intro taken htaken
          exact .inr (hfrom taken htaken)
        · exact .inl rfl

theorem Ordered.updateCommand (hs : s.Ordered) (command : β) (device : DeviceIdentification) :
    (s.updateCommand moduleLibrary_ command device).Ordered := by
  obtain h | ⟨module_,-,hregistered,h,hentry⟩ := updateCommand_eq moduleLibrary_ s command device
  · rw [h]
    exact hs
  · rw [h]
    have hqueue : ∀ k, k ≠ device.key → (s.handler.setAggregator device.module_
        ((s.handler.statusAggregators device.module_).operate module_
          (.update_command command device))).externalCommandQueue k = s.handler.externalCommandQueue k := by
      intro k hk
      unfold ModuleHandler.externalCommandQueue
      rw [hentry, if_neg hk]
    obtain ⟨d,hd⟩ := Option.isSome_iff_exists.mp hregistered
    obtain ⟨hsuffix,hlength,-⟩ := addExternalCommand_queue d command
    have hself := hentry device.key
    rw [if_pos rfl, hd, Option.map_some] at hself
    have hbacked := hs.backed device.key
    unfold ModuleHandler.externalCommandQueue at hbacked
    rw [hd, Option.elim_some] at hbacked
    apply hs.advance
    · intro k
      by_cases hk : k = device.key
      · subst hk
        simp only [ModuleHandler.externalCommandQueue, hself, Option.elim_some, Function.update_self]
        obtain ⟨older,hbacked⟩ := hbacked
        rw [← hbacked, List.append_assoc]
        exact hsuffix.trans (List.suffix_append _ _)
      · simp only [Function.update_of_ne hk, hqueue k hk]
        exact hs.backed k
    · intro k
      unfold taken
      by_cases hk : k = device.key
      · subst hk
        have hle := hbacked.length_le
        simp only [ModuleHandler.externalCommandQueue, hself, hd, Option.elim_some, Function.update_self,
          List.length_append, List.length_singleton]
        omega
      · simp only [Function.update_of_ne hk, hqueue k hk, le_refl]
    · rfl
    · intro hand h
      exact .inl h
    · intro hand h
      exact .inl h
    · exact .inl rfl

theorem Ordered.step (hs : s.Ordered) {call : ModuleLibrary β × ThreadAction β} (hg : s.pushesOldest call = true)
    (ht : s.threadStep call = some t) : t.Ordered := by
  obtain ⟨moduleLibrary_,a⟩ := call
  cases a with
  | messages => exact hs.handleMessages hg ht
  | forwards => exact hs.handleCommandForwards hg ht
  | command command device =>
    simp only [threadStep, handleCommands] at ht
    split at ht
    · cases ht
      exact hs.updateCommand command device
    · cases ht
  | event =>
    obtain ⟨device,-,rfl⟩ := Option.map_eq_some_iff.mp ht
    exact hs.quiet (fun _ => .inl rfl) rfl rfl rfl fun _ h => h
  | force device =>
    obtain ⟨module_,hm,rfl⟩ := Option.map_eq_some_iff.mp ht
    have hkeeps := s.handler.keeps_operate hm (.force_aggregation_on_device device) rfl
    exact hs.quiet (fun k => .inl (hkeeps.externalCommandQueue k)) rfl rfl rfl fun _ h => h
  | receive message =>
    cases ht
    exact hs.quiet (fun _ => .inl rfl) rfl rfl rfl fun _ h => h
  | tick number deviceId =>
    obtain ⟨module_,hm,rfl⟩ := Option.map_eq_some_iff.mp ht
    have hkeeps := s.handler.keeps_operate hm (.timeouted_force_aggregation deviceId) rfl
    exact hs.quiet (fun k => .inl (hkeeps.externalCommandQueue k)) rfl rfl rfl fun _ h => h
  | erase number i =>
    obtain ⟨aggregator,hrun,rfl⟩ := Option.map_eq_some_iff.mp ht
    refine hs.quiet ?_ rfl rfl rfl fun _ h => h
    intro k
    unfold ModuleHandler.externalCommandQueue
    obtain h | h := s.handler.entry_runPosted k hrun
    · left
      simp only [withHandler, h]
    · right
      simp only [withHandler, h, Option.elim_none]
  | sent =>
    cases ht
    exact hs.quiet (fun _ => .inl rfl) rfl rfl rfl fun _ h => h
  | listened =>
    cases ht
    exact hs.quiet (fun _ => .inl rfl) rfl rfl rfl fun _ h => h

/-- In a run in which no thread pushes a command while the other one holds an older command of the
same device, the commands of every device are pushed in the order in which they were accepted, and
none of them twice. -/
theorem exec_numbers_increasing {as : List (ModuleLibrary β × ThreadAction β)}
    (hg : Guarded threadStep (fun s call => pushesOldest s call = true) init as)
    (he : exec threadStep init as = some s) (k : DeviceKey) : (s.numbers k).Pairwise (· < ·) := by
  have hs : s.Ordered := exec_guarded_invariant Ordered.init (fun _ _ _ hs ha ht => hs.step ha ht) hg he
  exact hs.increasing k

/-- The camera is registered and gets two commands. The message thread takes the first one for the
next status, the forwarding thread the second one. -/
def bothTaken : List (ModuleLibrary (List UInt8) × ThreadAction (List UInt8)) :=
  cameraStatus [1] 9 ++ cameraCommand [10] ++ cameraCommand [11] ++ cameraStatus [2] 5 ++ [(pushLibrary,.forwards)]

/-- The forwarding thread pushes first. -/
theorem forwardedFirst_reversed :
    ∃ s, exec threadStep init (bothTaken ++ [(pushLibrary,.forwards),(pushLibrary,.messages)]) = some s ∧
      s.numbers StatusAggregator.camera.key = [1,0] := ⟨_,rfl,rfl⟩

/-- The message thread pushes first. -/
theorem statusFirst_pushesOldest : Guarded threadStep (fun s call => pushesOldest s call = true) init
    (bothTaken ++ [(pushLibrary,.messages),(pushLibrary,.forwards)]) := by decide +kernel

theorem exec_numbers_increasing_statusFirst :
    ∃ s, exec threadStep init (bothTaken ++ [(pushLibrary,.messages),(pushLibrary,.forwards)]) = some s ∧
      s.numbers StatusAggregator.camera.key = [0,1] ∧ (s.numbers StatusAggregator.camera.key).Pairwise (· < ·) :=
  ⟨_,rfl,rfl,exec_numbers_increasing statusFirst_pushesOldest rfl _⟩

end HandlerThreads

end ModuleGateway.Modules
