import RequestAuth.Proofs.Session.Identifiers

/-! Session identifiers can be neither fixed nor revived. What a request presents resolves only if
the source handed it out before, and never again once it is revoked; an exchange goes on with its
session for as long as that lives, and then with a new one under a new identifier. -/
namespace RequestAuth.Server

variable {server next : Server} {act : Act} {answer : Answer} {past : List Mention}
  {first later : List Act} {i : Nat} {id : String}

/-- What an exchange is answered with resolves once it is answered. -/
theorem Effect.resolved {create : Bool}
    (effect : server.Effect (.session i create) (.exchanged (.ok (some id))) next) :
    (next.store.find? id).isSome := by
  cases effect with
  | existing _ _ alive => exact alive
  | made _ _ grown _ =>
    rw [grown.store, SessionStore.find?_made grown.novel.unused, if_pos rfl]
    rfl

/-- An exchange keeps the identifier of a live session. -/
theorem Effect.carries (effect : server.Effect act answer next) (carried : server.Carries i id)
    (alive : (server.store.find? id).isSome) : next.Carries i id := by
  obtain ⟨x, opened, attached⟩ := carried
  cases effect with
  | arrived request presented =>
    have inside := (List.getElem?_eq_some_iff.mp opened).1
    exact ⟨x, by rw [List.getElem?_append_left inside, opened], attached⟩
  | created _ exchanges => exact ⟨x, exchanges ▸ opened, attached⟩
  | invalidated altered | written altered | erased altered =>
    exact ⟨x, altered.exchanges ▸ opened, attached⟩
  | got | read | unopened | existing | absent => exact ⟨x, opened, attached⟩
  | @made j y made _ asked idle _ exchanges =>
    have apart : j ≠ i := by
      rintro rfl
      obtain rfl : x = y := Option.some.inj (opened.symm.trans asked)
      simp [idle id attached] at alive
    exact ⟨x, by rw [exchanges, List.getElem?_set_ne apart, opened], attached⟩

section

variable {source : IdSource}

theorem Fresh.left (fresh : server.Fresh (first ++ later)) : server.Fresh first := by
  rw [Fresh, history_append] at fresh
  exact (List.pairwise_append.mp fresh).1

theorem Fresh.upto (fresh : server.Fresh (first ++ act :: later)) :
    server.Fresh (first ++ [act]) := by
  rw [List.append_cons] at fresh
  exact fresh.left

theorem Fresh.accounted (fresh : Fresh { source } first) :
    (after { source } first).Accounted (history { source } first) :=
  (Accounted.initial source).run fresh

/-- The step that is taken after part of a run. -/
theorem Fresh.effect (fresh : Fresh { source } (first ++ act :: later)) :
    (after { source } first).Effect act ((after { source } first).step act).1
      (after { source } (first ++ [act])) := by
  have accounted := fresh.left.accounted
  rw [Fresh, history_append, history, ← List.append_assoc] at fresh
  have now := (List.pairwise_append.mp (List.pairwise_append.mp fresh).1).2.2
  rw [after_append]
  exact accounted.step act now

end

/-- What has come up and was not handed out is not handed out later. -/
theorem issued_of_mentioned {m : Mention} {more : List Mention}
    (fresh : (past ++ more).Pairwise Mention.Precedes) (mentioned : m ∈ past)
    (issued : .issued m.id ∈ past ++ more) : .issued m.id ∈ past := by
  rcases List.mem_append.mp issued with here | there
  · exact here
  · exact absurd rfl ((List.pairwise_append.mp fresh).2.2 m mentioned _ there)

/-- What an exchange carries and resolves at the end of a run has resolved from when it was carried
on, so the exchange never gave it up. -/
theorem Accounted.carries {acts : List Act} (accounted : server.Accounted past)
    (fresh : (past ++ server.history acts).Pairwise Mention.Precedes)
    (carried : server.Carries i id) (alive : ((server.after acts).store.find? id).isSome) :
    (server.after acts).Carries i id := by
  induction acts generalizing server past with
  | nil => exact carried
  | cons act acts ih =>
    have last := ((accounted.run fresh).resolves_iff id).mp alive
    have before : (server.store.find? id).isSome := by
      obtain ⟨x, opened, attached⟩ := carried
      obtain ⟨m, mentioned, rfl⟩ :=
        accounted.attached x (List.mem_of_getElem? opened) id attached
      refine (accounted.resolves_iff m.id).mpr ⟨?_, fun revoked => last.2 ?_⟩
      · exact issued_of_mentioned fresh mentioned last.1
      · exact List.mem_append_left _ revoked
    simp only [history, ← List.append_assoc] at fresh
    have now := (List.pairwise_append.mp (List.pairwise_append.mp fresh).1).2.2
    have effect := accounted.step act now
    exact ih (accounted.effect effect now) fresh (effect.carries carried before) alive

/-- A live session is the answer to the exchange that carries its identifier. -/
theorem step_session_carried (accounted : server.Accounted past) (carried : server.Carries i id)
    (alive : (server.store.find? id).isSome) (create : Bool) :
    server.step (.session i create) = (.exchanged (.ok (some id)), server) := by
  obtain ⟨x, opened, attached⟩ := carried
  obtain ⟨s, found⟩ := Option.isSome_iff_exists.mp alive
  have current : (server.host x).currentSession = some s := by
    simp [host, Host.currentSession, attached, found]
  have same : s.id = id := SessionStore.find?_id found
  have plain := accounted.plain x (List.mem_of_getElem? opened)
  rw [step_session_existing opened plain current, same]

/-- What holds of a run as far as session identifiers go. -/
structure Guarded (server : Server) (acts : List Act) : Prop where
  /-- The table has each live session under its own identifier. -/
  keyed : ∀ id s, (server.after acts).store.find? id = some s ↔
    s ∈ (server.after acts).store.live ∧ s.id = id
  distinct : (server.after acts).store.Distinct
  /-- Only what was handed out and not revoked since resolves. -/
  resolves : ∀ id, ((server.after acts).store.find? id).isSome ↔
    .issued id ∈ server.history acts ∧ .revoked id ∉ server.history acts
  /-- Once revoked, or presented without having been handed out, an identifier never resolves. -/
  barred : ∀ first later id, acts = first ++ later →
    .revoked id ∈ server.history first ∨
      .presented id ∈ server.history first ∧ .issued id ∉ server.history first →
    (server.after acts).store.find? id = none
  /-- Each act has its effect and no other. A call that does not create leaves the server as it is,
  one that does makes a session only where none is live, a write puts one attribute of one
  session. -/
  effects : ∀ first act later, acts = first ++ act :: later →
    (server.after first).Effect act ((server.after first).step act).1
      (server.after (first ++ [act]))
  /-- No exchange is answered with what does not resolve. -/
  answered : ∀ first i create later id, acts = first ++ .session i create :: later →
    ((server.after first).step (.session i create)).1 = .exchanged (.ok (some id)) →
    .issued id ∈ server.history (first ++ [.session i create]) ∧
      .revoked id ∉ server.history (first ++ [.session i create])
  /-- While the session that an exchange carries lives, each of its calls returns that one. -/
  kept : ∀ first later i id, acts = first ++ later → (server.after first).Carries i id →
    ((server.after acts).store.find? id).isSome → ∀ create,
      (server.after acts).step (.session i create) =
        (.exchanged (.ok (some id)), server.after acts)

/-- Every run from an empty store, as long as the source of identifiers is fresh. -/
theorem identifiers_guarded (source : IdSource) (acts : List Act)
    (fresh : Fresh { source } acts) : Guarded { source } acts := by
  have accounted := fresh.accounted
  exact {
    keyed _ _ := SessionStore.find?_eq_some_iff accounted.distinct
    distinct := accounted.distinct
    resolves := accounted.resolves_iff
    barred := by
      rintro first later id rfl barred
      rw [← Option.not_isSome_iff_eq_none, accounted.resolves_iff]
      rw [history_append] at *
      rintro ⟨issued, unrevoked⟩
      rcases barred with revoked | ⟨presented, unissued⟩
      · exact unrevoked (List.mem_append_left _ revoked)
      · rw [Fresh, history_append] at fresh
        exact unissued (issued_of_mentioned fresh presented issued)
    effects := by
      rintro first act later rfl
      exact fresh.effect
    answered := by
      rintro first i create later id rfl answer
      have effect := fresh.effect
      rw [answer] at effect
      exact (fresh.upto.accounted.resolves_iff id).mp effect.resolved
    kept := by
      rintro first later i id rfl carried alive create
      have before := fresh.left.accounted
      rw [after_append] at alive ⊢
      rw [Fresh, history_append] at fresh
      exact step_session_carried (before.run fresh) (before.carries fresh carried alive) alive
        create }

/-- Two exchanges on one session, which is then invalidated: the second gets a new one when it asks
again, and a made-up identifier gets nothing. -/
theorem identifiers_guarded_logout :
    let source : IdSource := { ids := fun n => ⟨BitVec.ofNat 128 n⟩ }
    let id := (source.ids 0).text
    let acts : List Act := [.arrive {} none, .session 0 true, .write id "k" .null,
      .arrive {} (some id), .session 1 false, .invalidate id, .session 1 true,
      .arrive {} (some "planted"), .session 2 false, .session 2 true]
    Fresh { source } acts ∧ Guarded { source } acts := by
  intro source id acts
  have fresh : Fresh { source } acts := by decide +kernel
  exact ⟨fresh, identifiers_guarded source acts fresh⟩

end RequestAuth.Server
