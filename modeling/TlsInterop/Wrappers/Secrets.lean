import TlsInterop.Wrappers.FileFrame
import TlsInterop.Wrappers.Ownership

/-!
# What a wrapper leaves under `/tmp`

A wrapper writes certificates, private keys and PSK passwords to staging files.  A
CLOSE removes the files it keeps track of.  The two inline PEM files are tracked once
both are written; the PSK password file of a GnuTLS server never is, neither the one
of a validation nor the one of a start.

## Main definitions

* `leftBehind` — the staging files a trace writes and does not remove.
* `WritesSucceed` — no write of a staging file fails.
* `WritesPskFile` — the requests whose translation writes a PSK password file.

## Main results

* `executeOperation_tidy` — a file that an operation leaves is tracked.
* `no_secret_left_when` — **after a CLOSE nothing is left, if no request writes a PSK
  file and no write fails.**
* `psk_secret_left` — the password file of a PSK server is left.
-/

namespace TlsInterop

open Py Effects

/-! ### Files -/

/-- One call: a file is there once it is opened for writing, even if the write fails. -/
def fileStep (files : List String) (e : Event StagingAns) : List String :=
  match e.1 with
  | .writeFile path _ => path :: files
  | .remove path => files.filter (· ≠ path)
  | _ => files

/-- The staging files after a trace. -/
def filesAfter (files : List String) (tr : List (Event StagingAns)) : List String :=
  tr.foldl fileStep files

theorem filesAfter_append (files : List String) (tr tr' : List (Event StagingAns)) :
    filesAfter files (tr ++ tr') = filesAfter (filesAfter files tr) tr' := List.foldl_append

/-- A call that is no failed write. -/
def writeSucceeds : Event StagingAns → Bool
  | ⟨.writeFile .., .error _⟩ => false
  | _ => true

/-- No write of a staging file fails. -/
def WritesSucceed (tr : List (Event StagingAns)) : Prop := ∀ e ∈ tr, writeSucceeds e = true

instance (tr : List (Event StagingAns)) : Decidable (WritesSucceed tr) :=
  inferInstanceAs (Decidable (∀ e ∈ tr, writeSucceeds e = true))

theorem writesSucceed_append {tr tr' : List (Event StagingAns)} :
    WritesSucceed (tr ++ tr') ↔ WritesSucceed tr ∧ WritesSucceed tr' := List.forall_mem_append

theorem ok_of_writeSucceeds {path : String} {content : List UInt8} {ans : Except PyExc Unit}
    (h : writeSucceeds ⟨.writeFile path content, ans⟩ = true) : ans = .ok () := by
  cases ans with
  | ok _ => rfl
  | error e => cases h

/-- Where all writes succeed, files that are tracked before and files that are written
are tracked after. -/
def tidy : Eff.Frame StagingAns Staging where
  holds st tr st' := WritesSucceed tr → ∀ files, files ⊆ st.activeTempFiles →
    filesAfter files tr ⊆ st'.activeTempFiles
  refl _ _ _ h := h
  trans := by
    intro st st₁ st₂ tr tr' h h' hok files hfiles
    obtain ⟨hok₁, hok₂⟩ := writesSucceed_append.mp hok
    rw [filesAfter_append]
    exact h' hok₂ _ (h hok₁ files hfiles)

/-- A program whose files are tracked. -/
abbrev Tidy {α : Type} (m : StagingM α) : Prop := Eff.Within tidy m

/-! ### The hooks -/

/-- Both PEM files are tracked when they are written. -/
theorem writeInlineCertKey_tidy (host : WrapperHost) (componentName : String)
    (cert key : List UInt8) : Tidy (writeInlineCertKey host componentName cert key) := by
  have htrack : ∀ path, ∀ st : Staging, ∀ x, x = path ∨ x ∈ st.activeTempFiles →
      x ∈ (if path ∈ st.activeTempFiles then st.activeTempFiles
        else st.activeTempFiles ++ [path]) := by
    intro path st x hx
    split
    · next hmem => exact hx.elim (fun h => h ▸ hmem) id
    · exact List.mem_append.mpr (hx.elim (fun h => .inr (List.mem_singleton.mpr h)) .inl)
  intro st tr r st' h hok files hfiles
  obtain ⟨_, tr', rfl, h⟩ := h
  obtain ⟨wrote, tr', rfl, h⟩ := h
  obtain rfl : wrote = .ok () :=
    ok_of_writeSucceeds (hok _ (List.mem_cons_of_mem _ List.mem_cons_self))
  obtain ⟨wrote', tr', rfl, h⟩ := h
  obtain rfl : wrote' = .ok () :=
    ok_of_writeSucceeds
      (hok _ (List.mem_cons_of_mem _ (List.mem_cons_of_mem _ List.mem_cons_self)))
  obtain ⟨_, tr', rfl, rfl, h⟩ := h
  obtain ⟨-, rfl⟩ := Prod.mk.inj h
  intro x hx
  rcases List.mem_cons.mp hx with rfl | hx
  · exact htrack _ _ _ (.inl rfl)
  · rcases List.mem_cons.mp hx with rfl | hx
    · exact htrack _ _ _ (.inr (htrack _ _ _ (.inl rfl)))
    · exact htrack _ _ _ (.inr (htrack _ _ _ (.inr (hfiles hx))))

/-- Looking at files is tidy, and so are the inline PEM files. -/
def tidyFiles : FileFrame where
  toFrame := tidy
  plain := by
    intro q st ans hq _ files hfiles
    cases q <;> first | exact hfiles | cases hq
  inline := writeInlineCertKey_tidy

namespace GnuTLS

/-- The translation of the configuration writes a PSK password file. -/
def writesPsk (host : WrapperHost) (config : TlsConfig) (role : Role) : Bool :=
  usesPsk config (strip config.cipherSuite) && isServerRole (some role) &&
    ((host.capabilities "gnutls").pskMaterial (strip config.cipherSuite)).isSome

theorem stagePskPasswdFile_tidy {host : WrapperHost} {config : TlsConfig} {role : Role}
    (h : writesPsk host config role = false) : Tidy (stagePskPasswdFile host config role) := by
  unfold stagePskPasswdFile
  unfold writesPsk at h
  dsimp only
  split
  · exact .pure _
  · next huses =>
    rw [Bool.not_eq_true', Bool.not_eq_false] at huses
    rw [huses, Bool.true_and] at h
    split
    · exact .pure _
    · next mat hmat => rw [hmat] at h; cases h

end GnuTLS

namespace NSS

theorem ensureNssDbReady_tidy (host : WrapperHost) : Tidy (ensureNssDbReady host) :=
  .bind .getState fun _ => .ite (.pure _) <|
    .bind (importRows_within (F := tidyFiles) host importPrefixes) fun _ =>
    .bind (.invoke fun _ _ _ _ h => h) fun _ => .modifyState fun _ _ _ h => h

end NSS

/-! ### The servicer -/

/-- The hooks of a backend leave no file untracked when they handle the request. -/
structure Tracks (b : CliBackend) (request : OperationRequest) : Prop where
  server : request.role = .server → Tidy (b.startServer request.config)
  client : request.role ≠ .server → Tidy (b.startClient request.config)
  translation : Tidy (b.stageTranslation request.config request.role)

/-! ### CLOSE -/

/-- Nothing is written. -/
def writesNothing : Eff.Frame StagingAns Staging where
  holds _ tr _ := ∀ files, filesAfter files tr ⊆ files
  refl _ _ := List.Subset.refl _
  trans h h' files := by
    rw [filesAfter_append]
    exact List.Subset.trans (h' _) (h files)

/-- Removing a list of files leaves none of them. -/
theorem exec_removeAll {paths : List String} {st st' : Staging} {tr : List (Event StagingAns)}
    {r : Except PyExc Unit}
    (h : (paths.forM fun path => Eff.call (StagingCall.remove path) : StagingM Unit).Exec
      st tr r st') :
    ∀ files, ∀ x ∈ filesAfter files tr, x ∈ files ∧ x ∉ paths := by
  induction paths generalizing tr with
  | nil =>
    obtain ⟨rfl, -, -⟩ := Eff.exec_pure.mp h
    exact fun files x hx => ⟨hx, List.not_mem_nil⟩
  | cons path paths ih =>
    obtain ⟨_, tr', rfl, h⟩ := h
    intro files x hx
    obtain ⟨hx, hnot⟩ := ih h (files.filter (· ≠ path)) x hx
    obtain ⟨hx, hne⟩ := List.mem_filter.mp hx
    refine ⟨hx, fun hmem => (List.mem_cons.mp hmem).elim (fun heq => ?_) hnot⟩
    simp [heq] at hne

/-- The removal of the tracked files leaves none of them. -/
theorem exec_cleanupEphemeralPemIfNeeded {st st' : Staging} {tr : List (Event StagingAns)}
    {r : Except PyExc Unit} (h : cleanupEphemeralPemIfNeeded.Exec st tr r st') :
    ∀ files, files ⊆ st.activeTempFiles → filesAfter files tr = [] := by
  intro files hfiles
  have hremoved := exec_removeAll (Eff.exec_modifyState_bind.mp (Eff.exec_getState_bind.mp h))
  refine List.eq_nil_iff_forall_not_mem.mpr fun x hx => ?_
  obtain ⟨hin, hnot⟩ := hremoved files x hx
  exact hnot (hfiles hin)

/-- No call on files. -/
def noFiles : Eff.Frame StagingAns Staging where
  holds st tr st' := tr = [] ∧ st' = st
  refl _ := ⟨rfl, rfl⟩
  trans := by
    rintro _ _ _ _ _ ⟨rfl, rfl⟩ ⟨rfl, rfl⟩
    exact ⟨rfl, rfl⟩

/-- A CLOSE removes all tracked files and writes none. -/
theorem exec_cleanup_files {b : CliBackend} (hdb : Eff.Within writesNothing b.cleanupDb)
    {s s' : WrapperState} {tr : List (Event WrapperAns)} {r : Except PyExc Unit}
    (h : (cleanup b).Exec s tr r s') {files : List String}
    (hfiles : files ⊆ s.staging.activeTempFiles) : filesAfter files (stageEvents tr) = [] := by
  rw [cleanup, Eff.exec_getState_bind] at h
  obtain ⟨_, s₁, tr₁, tr', rfl, h₁, h'⟩ := (terminateProcessHard_total _).exec_bind h
  obtain ⟨_, s₂, tr₂, tr₃, rfl, h₂, h₃⟩ := (terminateProcessHard_total _).exec_bind h'
  obtain ⟨hnone₁, hsame₁⟩ : stageEvents tr₁ = [] ∧ s₁.staging = s.staging :=
    terminateProcessHard_onFiles (F := noFiles) _ h₁
  obtain ⟨hnone₂, hsame₂⟩ : stageEvents tr₂ = [] ∧ s₂.staging = s₁.staging :=
    terminateProcessHard_onFiles (F := noFiles) _ h₂
  rw [stageEvents_append, stageEvents_append, hnone₁, hnone₂, List.nil_append, List.nil_append]
  rw [← hsame₁, ← hsame₂] at hfiles
  rw [Eff.exec_modifyState_bind, extraCleanup] at h₃
  -- every tracked file is removed
  have hremove : ∀ {s₄ : WrapperState} {tr₄ : List (Event WrapperAns)} {r : Except PyExc Unit},
      (stage cleanupEphemeralPemIfNeeded).Exec
        { s₂ with serverProc := none, clientProc := none } tr₄ r s₄ →
      filesAfter files (stageEvents tr₄) = [] := by
    intro s₄ tr₄ r h₄
    obtain ⟨tr₀, st, rfl, h₀, rfl⟩ := Eff.exec_zoom.mp h₄
    rw [stageEvents_embed]
    exact exec_cleanupEphemeralPemIfNeeded h₀ files hfiles
  rcases Eff.exec_bind.mp h₃ with ⟨e, -, h₄⟩ | ⟨_, s₄, tr₄, tr₅, rfl, h₄, h₅⟩
  · exact hremove h₄
  · rw [stageEvents_append, filesAfter_append, hremove h₄]
    rw [Eff.exec_getState_bind] at h₅
    -- and nothing is written afterwards
    have hrest : Looks (onFiles writesNothing) (do
        if s₄.sessionArtifactRepoRoot ≠ "" then
          removeSessionArtifacts s₄.sessionArtifactRepoRoot
        stage b.cleanupDb : WrapperM Unit) :=
      .ite (.bind (removeSessionArtifacts_looks _) fun _ => stage_onFiles hdb) (stage_onFiles hdb)
    exact List.eq_nil_of_subset_nil (hrest h₅ [])

theorem executeOperation_files {b : CliBackend} (hdb : Eff.Within writesNothing b.cleanupDb)
    {request : OperationRequest} (hclose : request.type = .close) {s s' : WrapperState}
    {tr : List (Event WrapperAns)} {r : Except PyExc OperationResponse}
    (h : (executeOperation b request).Exec s tr r s') {files : List String}
    (hfiles : files ⊆ s.staging.activeTempFiles) : filesAfter files (stageEvents tr) = [] := by
  have hdispatch : ∀ {tr : List (Event WrapperAns)} {r s'},
      (dispatchOp b request).Exec s tr r s' → filesAfter files (stageEvents tr) = [] := by
    intro tr r s' h
    rw [dispatchOp, hclose] at h
    rcases Eff.exec_bind.mp h with ⟨e, -, h₁⟩ | ⟨_, s₁, tr₁, tr₂, rfl, h₁, h₂⟩
    · exact exec_cleanup_files hdb h₁ hfiles
    · obtain ⟨rfl, -, -⟩ := Eff.exec_pure.mp h₂
      rw [List.append_nil]
      exact exec_cleanup_files hdb h₁ hfiles
  rcases Eff.exec_tryCatch.mp h with ⟨a, -, h₁⟩ | ⟨e, s₁, tr₁, tr₂, rfl, h₁, h₂⟩
  · exact hdispatch h₁
  · rw [stageEvents_append, filesAfter_append, hdispatch h₁]
    have hnone : writesNothing.holds s₁.staging (stageEvents tr₂) s'.staging :=
      handleOpError_looks (F := onFiles writesNothing) _ e h₂
    exact List.eq_nil_of_subset_nil (hnone [])

/-- A request leaves no file untracked. -/
theorem executeOperation_tidy {b : CliBackend} {request : OperationRequest}
    (hdb : Eff.Within writesNothing b.cleanupDb)
    (htracks : request.type = .establish → Tracks b request) :
    Looks (onFiles tidy) (executeOperation b request) := by
  intro s tr r s' h
  by_cases hclose : request.type = .close
  · intro _ files hfiles
    rw [executeOperation_files hdb hclose h hfiles]
    exact List.nil_subset _
  · exact executeOperation_looks (fun hty => handleEstablish_onFiles (htracks hty).server
      (htracks hty).client (htracks hty).translation) (fun hty => absurd hty hclose) h

/-! ### The three wrappers -/

/-- The requests whose translation writes a PSK password file: server ESTABLISH requests
of the GnuTLS wrapper that enable PSK and have its material. -/
def WritesPskFile (kind : WrapperKind) (host : WrapperHost) (request : OperationRequest) : Prop :=
  kind = .gnutls ∧ request.type = .establish ∧
    GnuTLS.writesPsk host request.config request.role = true

theorem tracks_backend {kind : WrapperKind} {host : WrapperHost} {request : OperationRequest}
    (hty : request.type = .establish) (h : ¬ WritesPskFile kind host request) :
    Tracks (kind.backend host) request := by
  cases kind with
  | openssl =>
    exact ⟨fun _ => OpenSSL.startServer_within (F := tidyFiles) ..,
      fun _ => OpenSSL.startClient_within (F := tidyFiles) .., .pure _⟩
  | nss =>
    have hready : Tidy (NSS.ensureNssDbReady host) := NSS.ensureNssDbReady_tidy host
    exact ⟨fun _ => NSS.startServer_within (F := tidyFiles) hready,
      fun _ => NSS.startClient_within (F := tidyFiles) hready, .pure _⟩
  | gnutls =>
    have hpsk : GnuTLS.writesPsk host request.config request.role = false :=
      Bool.eq_false_iff.mpr fun hpsk => h ⟨rfl, hty, hpsk⟩
    have hstage : Tidy (GnuTLS.stagePskPasswdFile host request.config request.role) :=
      GnuTLS.stagePskPasswdFile_tidy hpsk
    have hserver : request.role = .server → Tidy (GnuTLS.startServer host request.config) := by
      intro hrole
      rw [hrole] at hstage
      exact GnuTLS.startServer_within (F := tidyFiles) hstage
    exact ⟨hserver, fun _ => GnuTLS.startClient_within (F := tidyFiles) .., hstage⟩

theorem cleanupDb_writesNothing (kind : WrapperKind) (host : WrapperHost) :
    Eff.Within writesNothing (kind.backend host).cleanupDb := by
  cases kind with
  | openssl => exact .pure ()
  | gnutls => exact .pure ()
  | nss =>
    exact .finallyDo (.invoke fun _ _ files => List.Subset.refl files)
      (.modifyState fun _ files => List.Subset.refl files)

/-- The staging files a trace of a wrapper leaves. -/
def leftBehind (tr : List (Event WrapperAns)) : List String := filesAfter [] (stageEvents tr)

/-- While no request writes a PSK file and no write fails, what is left is tracked. -/
theorem leftBehind_subset {kind : WrapperKind} {host : WrapperHost}
    {requests : List OperationRequest} {s s' : WrapperState} {past tr : List (Event WrapperAns)}
    {r : Except PyExc (List OperationResponse)}
    (hrun : (serve (kind.backend host) requests).Exec s tr r s')
    (hpsk : ∀ request ∈ requests, ¬ WritesPskFile kind host request)
    (hwrites : WritesSucceed (stageEvents tr))
    (hleft : leftBehind past ⊆ s.staging.activeTempFiles) :
    leftBehind (past ++ tr) ⊆ s'.staging.activeTempFiles := by
  induction requests generalizing past s tr r with
  | nil =>
    obtain ⟨rfl, -, rfl⟩ := Eff.exec_pure.mp hrun
    rwa [List.append_nil]
  | cons request rest ih =>
    obtain ⟨resp, s₁, tr₁, tr₂, r', rfl, h₁, h₂⟩ := exec_serve_cons hrun
    rw [stageEvents_append, writesSucceed_append] at hwrites
    rw [← List.append_assoc]
    refine ih h₂ (fun q hq => hpsk q (List.mem_cons_of_mem _ hq)) hwrites.2 ?_
    have htidy := executeOperation_tidy (cleanupDb_writesNothing kind host)
      (fun hty => tracks_backend hty (hpsk request List.mem_cons_self)) h₁
    rw [leftBehind, stageEvents_append, filesAfter_append]
    exact htidy hwrites.1 _ hleft

/-- **After a CLOSE no staging file is left, in every run in which no request writes a
PSK file and no write fails.**  A CLOSE removes the files that are registered: the
password file of GnuTLS is never registered, and an identity file is registered only after
it has been written. -/
theorem no_secret_left_when (kind : WrapperKind) (host : WrapperHost)
    {requests : List OperationRequest} {close : OperationRequest} {s : WrapperState}
    {tr : List (Event WrapperAns)} {r : Except PyExc (List OperationResponse)}
    (hclose : close.type = .close)
    (hrun : (serve (kind.backend host) (requests ++ [close])).Exec {} tr r s)
    (hpsk : ∀ request ∈ requests, ¬ WritesPskFile kind host request)
    (hwrites : WritesSucceed (stageEvents tr)) : leftBehind tr = [] := by
  obtain ⟨r', s₁, tr₁, tr₂, resp, rfl, h₁, h₂⟩ := exec_serve_concat hrun
  rw [stageEvents_append, writesSucceed_append] at hwrites
  have hleft : leftBehind ([] ++ tr₁) ⊆ s₁.staging.activeTempFiles :=
    leftBehind_subset h₁ hpsk hwrites.1 (List.nil_subset _)
  rw [List.nil_append] at hleft
  rw [leftBehind, stageEvents_append, filesAfter_append]
  exact executeOperation_files (cleanupDb_writesNothing kind host) hclose h₂ hleft

/-! ### Runs -/

/-- A server ESTABLISH with inline PEM texts. -/
def inlineRequest : OperationRequest where
  type := .establish
  role := .server
  config := { version := "1.3", port := 4433, certificate := [67], privateKey := [75] }

/-- A server ESTABLISH with a PSK cipher. -/
def pskRequest : OperationRequest where
  type := .establish
  role := .server
  config := { version := "1.2", port := 4433, cipherSuite := "psk-aes-128-gcm-sha256"
              pskModes := ["psk"] }

/-- The run of a request and a CLOSE on the GnuTLS wrapper with quiet processes. -/
abbrev gnutlsRun (request : OperationRequest) : (Except PyExc (List OperationResponse) ×
    WrapperState) × List (Event WrapperAns) :=
  ((serve (WrapperKind.gnutls.backend shippedHost) ([request] ++ [closeRequest])).prog {}).exec
    quietEnv []

theorem gnutlsRun_exec (request : OperationRequest) :
    (serve (WrapperKind.gnutls.backend shippedHost) ([request] ++ [closeRequest])).Exec {}
      (gnutlsRun request).2 (gnutlsRun request).1.1 (gnutlsRun request).1.2 := Eff.exec_run ..

theorem no_secret_left_when_inline : leftBehind (gnutlsRun inlineRequest).2 = [] := by
  have hwrites : WritesSucceed (stageEvents (gnutlsRun inlineRequest).2) := by decide +kernel
  have hpsk : GnuTLS.writesPsk shippedHost inlineRequest.config .server = false := by decide
  have hnone : ∀ request ∈ [inlineRequest], ¬ WritesPskFile .gnutls shippedHost request := by
    intro request hmem
    obtain rfl := List.mem_singleton.mp hmem
    exact fun h => Bool.false_ne_true (hpsk.symm.trans h.2.2)
  exact no_secret_left_when .gnutls shippedHost rfl (gnutlsRun_exec inlineRequest) hnone hwrites

/-- No write fails and the password files of the validation and of the start are left. -/
theorem psk_secret_left :
    ∃ (s : WrapperState) (tr : List (Event WrapperAns))
      (r : Except PyExc (List OperationResponse)),
      (serve (WrapperKind.gnutls.backend shippedHost) ([pskRequest] ++ [closeRequest])).Exec
        {} tr r s ∧ closeRequest.type = .close ∧ WritesSucceed (stageEvents tr) ∧
      leftBehind tr ≠ [] := by
  have hrun : WritesSucceed (stageEvents (gnutlsRun pskRequest).2) ∧
      leftBehind (gnutlsRun pskRequest).2 ≠ [] := by decide +kernel
  exact ⟨(gnutlsRun pskRequest).1.2, (gnutlsRun pskRequest).2, (gnutlsRun pskRequest).1.1,
    gnutlsRun_exec pskRequest, rfl, hrun⟩

end TlsInterop
