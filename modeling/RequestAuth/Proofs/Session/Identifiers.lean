import RequestAuth.Proofs.Session.Server

/-! Session identifiers over a whole run of a server. A run mentions identifiers: requests present
them, the source hands them out, and sessions are invalidated under them. Those mentions alone
decide what resolves, and no one but the source can bring an identifier to life. -/
namespace RequestAuth

inductive Mention
  | presented (id : String)
  | issued (id : String)
  | revoked (id : String)

namespace Mention

def id : Mention → String
  | presented id | issued id | revoked id => id

/-- What is handed out later is not what came up before. -/
def Precedes (m : Mention) : Mention → Prop
  | issued id => m.id ≠ id
  | presented _ | revoked _ => True

instance (m : Mention) : (later : Mention) → Decidable (m.Precedes later)
  | issued _ => inferInstanceAs (Decidable (_ ≠ _))
  | presented _ | revoked _ => inferInstanceAs (Decidable True)

end Mention

namespace Server

/-- What the source hands out until the server is the next one. -/
def issues (server next : Server) : List Mention :=
  (List.range' server.source.drawn (next.source.drawn - server.source.drawn)).map
    fun n => .issued (server.source.ids n).text

def mentions (server : Server) (act : Act) (answer : Answer) (next : Server) : List Mention :=
  match act, answer with
  | .arrive _ (some id), _ => .presented id :: server.issues next
  | .invalidate id, .invalidated true => .revoked id :: server.issues next
  | _, _ => server.issues next

/-- The server after a run. -/
def after (server : Server) (acts : List Act) : Server :=
  acts.foldl (fun server act => (server.step act).2) server

/-- All that a run mentions, in order. -/
def history : Server → List Act → List Mention
  | _, [] => []
  | server, act :: acts =>
    let (answer, next) := server.step act
    server.mentions act answer next ++ next.history acts

/-- The source never repeats itself, and never yields what a request has presented. -/
def Fresh (server : Server) (acts : List Act) : Prop :=
  (server.history acts).Pairwise Mention.Precedes

instance (server : Server) (acts : List Act) : Decidable (server.Fresh acts) :=
  inferInstanceAs (Decidable (List.Pairwise _ _))

/-- The exchange goes on with this identifier. -/
def Carries (server : Server) (i : Nat) (id : String) : Prop :=
  ∃ x, server.exchanges[i]? = some x ∧ x.sessionId = some id

/-- What has been mentioned accounts for the sessions, for their being live, and for the identifiers
that exchanges carry. -/
structure Accounted (server : Server) (past : List Mention) : Prop where
  distinct : server.store.Distinct
  known : ∀ id, id ∈ server.store.sessions.map Session.id ↔ .issued id ∈ past
  ceased : ∀ s ∈ server.store.sessions, s.live = false ↔ .revoked s.id ∈ past
  attached : ∀ x ∈ server.exchanges, ∀ id, x.sessionId = some id → ∃ m ∈ past, m.id = id
  plain : ∀ x ∈ server.exchanges, x.outage = {}

variable {server next : Server} {act : Act} {answer : Answer} {past : List Mention} {id : String}

theorem issues_of_source (same : next.source = server.source) : server.issues next = [] := by
  simp [issues, same]

theorem issues_of_drawn (drawn : next.source = server.drawn) :
    server.issues next = [.issued server.spare] := by
  simp [issues, drawn, Server.drawn, spare]

namespace Accounted

theorem initial (source : IdSource) : Accounted { source } [] where
  distinct := List.nodup_nil
  known := by simp
  ceased := by simp
  attached := by simp
  plain := by simp

/-- A session is live as long as its identifier has been handed out and not been revoked. -/
theorem resolves_iff (accounted : server.Accounted past) (id : String) :
    (server.store.find? id).isSome ↔ .issued id ∈ past ∧ .revoked id ∉ past := by
  rw [← accounted.known, List.mem_map, SessionStore.find?, List.find?_isSome]
  constructor
  · rintro ⟨s, member, suits⟩
    obtain ⟨live, rfl⟩ : s.live = true ∧ s.id = id := by simpa using suits
    refine ⟨⟨s, member, rfl⟩, fun revoked => ?_⟩
    simp [(accounted.ceased s member).mpr revoked] at live
  · rintro ⟨⟨s, member, rfl⟩, unrevoked⟩
    have live : s.live = true := by
      simpa using mt (accounted.ceased s member).mp unrevoked
    exact ⟨s, member, by simp [live]⟩

theorem novel (accounted : server.Accounted past) (fresh : ∀ m ∈ past, m.id ≠ id) :
    server.Novel id where
  unused s member same := by
    have issued := (accounted.known s.id).mp (List.mem_map_of_mem member)
    exact fresh _ issued same
  unattached x member attached := by
    obtain ⟨m, mentioned, same⟩ := accounted.attached x member id attached
    exact fresh m mentioned same

theorem grows (accounted : server.Accounted past) (fresh : ∀ m ∈ past, m.id ≠ id)
    (grown : server.Grows next id)
    (exchanges : ∀ x ∈ next.exchanges,
      x ∈ server.exchanges ∨ x.sessionId = some id ∧ x.outage = {}) :
    next.Accounted (past ++ [.issued id]) where
  distinct := by
    rw [grown.store]
    exact SessionStore.made_distinct grown.novel.unused accounted.distinct
  known other := by simp [grown.sessions, accounted.known]
  ceased s member := by
    rw [grown.sessions, List.mem_append, List.mem_singleton] at member
    rcases member with member | rfl
    · simp [accounted.ceased s member]
    · have unrevoked : .revoked id ∉ past := fun member => fresh _ member rfl
      simp [unrevoked]
  attached x member other attached := by
    rcases exchanges x member with kept | ⟨named, -⟩
    · obtain ⟨m, mentioned, same⟩ := accounted.attached x kept other attached
      exact ⟨m, List.mem_append_left _ mentioned, same⟩
    · obtain rfl : id = other := Option.some.inj (named.symm.trans attached)
      exact ⟨.issued id, by simp, rfl⟩
  plain x member := by
    rcases exchanges x member with kept | ⟨-, plain⟩
    · exact accounted.plain x kept
    · exact plain

/-- Changes of sessions that keep their identifiers and agree with what is mentioned meanwhile. -/
theorem alters {R : Session → Session → Prop} {more : List Mention}
    (accounted : server.Accounted past) (altered : server.Alters R next)
    (unissued : ∀ id, .issued id ∉ more)
    (agrees : ∀ s ∈ server.store.sessions, ∀ t, R s t →
      t.id = s.id ∧ (t.live = false ↔ .revoked s.id ∈ past ++ more)) :
    next.Accounted (past ++ more) := by
  have paired : List.Forall₂
      (fun s t => t.id = s.id ∧ (t.live = false ↔ .revoked t.id ∈ past ++ more))
      server.store.sessions next.store.sessions := by
    refine ((List.forall₂_and_left _ _).mpr ⟨agrees, altered.sessions⟩).imp ?_
    rintro s t ⟨agrees, related⟩
    obtain ⟨same, live⟩ := agrees t related
    exact ⟨same, same ▸ live⟩
  have ids : next.store.sessions.map Session.id = server.store.sessions.map Session.id := by
    rw [eq_comm, ← List.forall₂_eq_eq_eq, List.forall₂_map_left_iff, List.forall₂_map_right_iff]
    exact paired.imp fun s t agreed => agreed.1.symm
  exact {
    distinct := by
      rw [SessionStore.Distinct, ids]
      exact accounted.distinct
    known := by simp [ids, accounted.known, unissued]
    ceased := by
      have swapped := paired.imp fun s t agreed => And.intro agreed.2 agreed.1
      exact ((List.forall₂_and_left _ _).mp (List.Forall₂.flip swapped)).1
    attached := by
      rw [altered.exchanges]
      intro x member other attached
      obtain ⟨m, mentioned, same⟩ := accounted.attached x member other attached
      exact ⟨m, List.mem_append_left _ mentioned, same⟩
    plain := by
      rw [altered.exchanges]
      exact accounted.plain }

/-- A step that leaves the server as it is mentions nothing new. -/
theorem idles (accounted : server.Accounted past) :
    server.Accounted (past ++ server.issues server) := by
  rw [issues_of_source rfl, List.append_nil]
  exact accounted

/-- One attribute of one session is no one's identifier. -/
theorem puts {key : String} {value : Option Json} (accounted : server.Accounted past)
    (put : server.Alters (Puts id key value) next) :
    next.Accounted (past ++ server.issues next) := by
  rw [issues_of_source put.source]
  refine accounted.alters put (by simp) fun s member t puts => ⟨puts.1, ?_⟩
  rw [puts.2.1, List.append_nil]
  exact accounted.ceased s member

theorem ceases (accounted : server.Accounted past) (ceased : server.Alters (Ceases id) next) :
    next.Accounted (past ++
      server.mentions (.invalidate id) (.invalidated (server.store.find? id).isSome) next) := by
  have mentioned : server.mentions (.invalidate id)
      (.invalidated (server.store.find? id).isSome) next =
        if (server.store.find? id).isSome then [.revoked id] else [] := by
    cases (server.store.find? id).isSome <;> simp [mentions, issues_of_source ceased.source]
  rw [mentioned]
  refine accounted.alters ceased (by split <;> simp) fun s member t ceases => ⟨ceases.1, ?_⟩
  rw [ceases.2.2, List.mem_append, ← accounted.ceased s member]
  by_cases named : s.id = id
  · subst named
    cases live : s.live with
    | false => simp
    | true =>
      -- it is this session that was found, so that its identifier is revoked now
      have found : (server.store.find? s.id).isSome := by
        rw [SessionStore.find?, List.find?_isSome]
        exact ⟨s, member, by simp [live]⟩
      simp [found]
  · split <;> simp [named]

theorem arrives (accounted : server.Accounted past) (request : Request)
    (presented : Option String) :
    let next : Server := { server with
      exchanges := server.exchanges ++ [{ request, sessionId := presented }] }
    next.Accounted (past ++ server.mentions (.arrive request presented)
      (.arrived server.exchanges.length) next) := by
  intro next
  have mentioned : server.mentions (.arrive request presented)
      (.arrived server.exchanges.length) next = (presented.map .presented).toList := by
    cases presented <;> simp [mentions, issues, next]
  rw [mentioned]
  exact {
    distinct := accounted.distinct
    known := by simp [next, accounted.known]
    ceased := by simpa using accounted.ceased
    attached := by
      intro x member id attached
      rcases List.mem_append.mp member with kept | arrived
      · obtain ⟨m, mentioned, same⟩ := accounted.attached x kept id attached
        exact ⟨m, List.mem_append_left _ mentioned, same⟩
      · obtain rfl := List.mem_singleton.mp arrived
        obtain rfl : presented = some id := attached
        exact ⟨.presented id, by simp, rfl⟩
    plain := by
      intro x member
      rcases List.mem_append.mp member with kept | arrived
      · exact accounted.plain x kept
      · rw [List.mem_singleton.mp arrived] }

/-- Whatever an act comes to, the mentions go on to account for the server. -/
theorem effect (accounted : server.Accounted past) (effect : server.Effect act answer next)
    (fresh : ∀ m ∈ past, ∀ later ∈ server.mentions act answer next, m.Precedes later) :
    next.Accounted (past ++ server.mentions act answer next) := by
  cases effect with
  | arrived request presented => exact accounted.arrives request presented
  | @created id _ grown exchanges =>
    have issued : server.issues next = [.issued id] := grown.spare ▸ issues_of_drawn grown.source
    simp only [mentions, issued, List.mem_singleton, forall_eq] at fresh ⊢
    exact accounted.grows fresh grown fun x member => .inl (exchanges ▸ member)
  | invalidated ceased => exact accounted.ceases ceased
  | written put | erased put => exact accounted.puts put
  | got | read | unopened | existing | absent => exact accounted.idles
  | @made i x id _ opened _ grown attached =>
    have issued : server.issues next = [.issued id] := grown.spare ▸ issues_of_drawn grown.source
    simp only [mentions, issued, List.mem_singleton, forall_eq] at fresh ⊢
    refine accounted.grows fresh grown fun y member => ?_
    rcases List.mem_or_eq_of_mem_set (attached ▸ member) with kept | rfl
    · exact .inl kept
    · exact .inr ⟨rfl, accounted.plain x (List.mem_of_getElem? opened)⟩

/-- A step comes to what it can come to, as long as the source yields something new. -/
theorem step (accounted : server.Accounted past) (act : Act)
    (fresh : ∀ m ∈ past, ∀ later ∈ server.mentions act (server.step act).1 (server.step act).2,
      m.Precedes later) :
    server.Effect act (server.step act).1 (server.step act).2 := by
  cases act with
  | arrive request presented => exact .arrived request presented
  | create =>
    rw [step_create] at fresh ⊢
    simp only [mentions, issues_of_drawn, List.mem_singleton, forall_eq] at fresh
    exact .created ⟨rfl, rfl, accounted.novel fresh, rfl⟩ rfl
  | get id => exact .got id
  | invalidate id => exact .invalidated (alters_invalidate id)
  | read id key => exact .read id key
  | write id key value => exact .written (alters_setAttribute id key value)
  | erase id key => exact .erased (alters_removeAttribute id key)
  | session i create =>
    cases opened : server.exchanges[i]? with
    | none =>
      simp only [Server.step, opened]
      exact .unopened opened
    | some x =>
      have plain := accounted.plain x (List.mem_of_getElem? opened)
      refine session_effect opened plain fun idle asked => accounted.novel ?_
      subst asked
      have made := step_session_made opened plain (currentSession_eq_none_iff.mpr idle)
      have issued : .issued server.spare ∈ server.mentions (.session i true)
          (server.step (.session i true)).1 (server.step (.session i true)).2 := by
        rw [made]
        simp [mentions, issues_of_drawn]
      exact fun m member => fresh m member _ issued

end Accounted

theorem history_append (server : Server) (first later : List Act) :
    server.history (first ++ later) =
      server.history first ++ (server.after first).history later := by
  induction first generalizing server with
  | nil => rfl
  | cons act first ih => simp [history, after, ih]

theorem after_append (server : Server) (first later : List Act) :
    server.after (first ++ later) = (server.after first).after later :=
  List.foldl_append

/-- A run that has been fresh so far and goes on so. -/
theorem Accounted.run {acts : List Act} (accounted : server.Accounted past)
    (fresh : (past ++ server.history acts).Pairwise Mention.Precedes) :
    (server.after acts).Accounted (past ++ server.history acts) := by
  induction acts generalizing server past with
  | nil => simpa [history, after] using accounted
  | cons act acts ih =>
    simp only [history, ← List.append_assoc] at fresh ⊢
    have first := (List.pairwise_append.mp (List.pairwise_append.mp fresh).1).2.2
    exact ih (accounted.effect (accounted.step act first) first) fresh

end Server
end RequestAuth
