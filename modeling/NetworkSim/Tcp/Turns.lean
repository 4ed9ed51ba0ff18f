import NetworkSim.Tcp.Delivery

/-!
# Runs as one sender sees them

To a host as a sender, a step of the process is either its turn in `run_senders` or one that changes
only what waits to be handled and to be sent, and the fields of the receiver (`step_host`). So a
property of hosts as senders need only be kept by a turn to hold along every run
(`hosts_invariant`).
-/

namespace NetworkSim.Tcp

variable {D : Type} {cfg : SysConfig D}

/-- `host'` is `host` to a sender that is not at work. -/
def SameSender (host host' : Host D) : Prop :=
  ∃ cmds incoming outgoing recvWindow recvWindowStart recvLfr recvMsgHead mallocs copies appended
    printed,
    host' =
      { host with
        inputCmdlistHead := cmds
        incomingFramesHead := incoming
        outgoingFramesHead := outgoing
        recvWindow := recvWindow
        recvWindowStart := recvWindowStart
        recvLfr := recvLfr
        recvMsgHead := recvMsgHead
        mallocs := mallocs
        copies := copies
        log := { host.log with appended := appended, printed := printed } }

theorem SameSender.refl (host : Host D) : SameSender host host :=
  ⟨_, _, _, _, _, _, _, _, _, _, _, rfl⟩

variable [CDouble D]

/-- **What a step is to a sender.** -/
theorem step_host {s s' : State D} (hphase : PhaseInv cfg s) (hstep : step cfg s = .ok s') (i : ℕ) :
    (∃ todo, s.point = .senders (i :: todo) ∧
      runSender cfg (s.world.hosts i) = .ok (s'.world.hosts i)) ∨
    SameSender (s.world.hosts i) (s'.world.hosts i) := by
  cases step_cases hstep with
  | input w w' rands order hreads horder =>
    obtain ⟨cmds, heq, -⟩ := hreads.hosts i
    exact .inr ⟨_, _, _, _, _, _, _, _, _, _, _, heq⟩
  | sender w j todo host hrun =>
    by_cases hij : i = j
    · subst hij
      have hself : (setHost i host w).hosts i = host := by rw [hosts_setHost, if_pos rfl]
      exact .inl ⟨todo, rfl, hrun.trans (congrArg _ hself.symm)⟩
    · have hother : (setHost j host w).hosts i = w.hosts i := by rw [hosts_setHost, if_neg hij]
      exact .inr ((congrArg (SameSender _) hother).mpr (SameSender.refl _))
  | dataFrames w w' rands order hdata horder =>
    obtain ⟨hsteps, -⟩ := sendDataFrames_steps hphase.ports hdata
    obtain ⟨_, _, heq⟩ := hsteps.hosts_eq i
    exact .inr ⟨_, _, _, _, _, _, _, _, _, _, _, heq⟩
  | receiver w j todo =>
    right
    by_cases hij : i = j
    · subst hij
      have hself : (setHost i (handleIncomingFrames cfg (w.hosts i)) w).hosts i =
          handleIncomingFrames cfg (w.hosts i) := by rw [hosts_setHost, if_pos rfl]
      obtain ⟨_, _, _, _, _, _, _, _, _, heq⟩ := handleIncomingFrames_eq cfg (w.hosts i)
      exact ⟨_, _, _, _, _, _, _, _, _, _, _, hself.trans heq⟩
    · have hother : (setHost j (handleIncomingFrames cfg (w.hosts j)) w).hosts i = w.hosts i := by
        rw [hosts_setHost, if_neg hij]
      exact (congrArg (SameSender _) hother).mpr (SameSender.refl _)
  | ackFrames w w' hacks =>
    obtain ⟨hsteps, -⟩ := sendAckFrames_steps hacks
    obtain ⟨_, _, heq⟩ := hsteps.hosts_eq i
    exact .inr ⟨_, _, _, _, _, _, _, _, _, _, _, heq⟩
  | exit w hexit => exact .inr (SameSender.refl _)
  | again w => exact .inr (SameSender.refl _)
  | exited w => exact .inr (SameSender.refl _)

/-- **Invariants of senders.** -/
theorem hosts_invariant {I : ℕ → Host D → Prop} {P : State D → Prop} {hostEnv : ℕ → HostEnv}
    {env : WorldEnv} {n : ℕ} {s : State D}
    (hstart : ∀ i < cfg.numHosts, I i (initHost cfg i (hostEnv i)))
    (hsame : ∀ i host host', SameSender host host' → I i host → I i host')
    (hturn : ∀ s i todo host', PhaseInv cfg s → P s → s.point = .senders (i :: todo) →
      I i (s.world.hosts i) → runSender cfg (s.world.hosts i) = .ok host' → I i host')
    (hP : RunMeets cfg P n ⟨.top, init cfg hostEnv env⟩)
    (h : steps cfg n ⟨.top, init cfg hostEnv env⟩ = .ok s) :
    ∀ i < cfg.numHosts, I i (s.world.hosts i) := by
  have hinv := steps_invariant
    (I := fun s => PhaseInv cfg s ∧ ∀ i < cfg.numHosts, I i (s.world.hosts i)) (P := P)
    ⟨PhaseInv.start hostEnv env, hstart⟩ ?_ hP h
  · exact hinv.2
  intro s s' hs hmeets hstep
  refine ⟨hs.1.step hstep, fun i hi => ?_⟩
  rcases step_host hs.1 hstep i with ⟨todo, hpoint, hrun⟩ | hsender
  · exact hturn s i todo _ hs.1 hmeets hpoint (hs.2 i hi) hrun
  · exact hsame i _ _ hsender (hs.2 i hi)

end NetworkSim.Tcp
