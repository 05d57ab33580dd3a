import TlsInterop.Wrappers.GnuTLS
import TlsInterop.Wrappers.NSS
import TlsInterop.Wrappers.OpenSSL
import TlsInterop.Wrappers.Processes

/-!
# What the hooks do on the file system

A specification of programs on files carries over from a few calls to the hooks of the
three backends, and from the hooks to the ESTABLISH that runs them.

## Main definitions

* `FileFrame` — a specification that looking at files meets, and the writing of the
  tracked PEM files.
* `stageEvents` — the calls on files of a trace of a wrapper.
* `onFiles` — a specification of programs on files, as one of a wrapper's programs.

## Main results

* `OpenSSL.startServer_within`, `OpenSSL.startClient_within`, and those of the other
  backends — the hooks.
* `handleEstablish_onFiles` — ESTABLISH.
-/

namespace TlsInterop

open Py Effects

/-- The calls that look at files, or write a session artifact. -/
def StagingCall.isPlain : StagingCall → Bool
  | getcwd => true
  | isFile _ => true
  | osIsFile _ => true
  | resolve _ => true
  | writeText .. => true
  | uuidHex => true
  | getaddrinfo .. => true
  | _ => false

/-- A specification that the plain calls meet, and the writing of tracked PEM files. -/
structure FileFrame extends Eff.Frame StagingAns Staging where
  plain : ∀ {q : StagingCall} (st ans), q.isPlain = true → holds st [⟨q, ans⟩] st
  inline : ∀ host componentName cert key,
    Eff.Within toFrame (writeInlineCertKey host componentName cert key)

section

variable {F : FileFrame}

theorem call_plain {q : StagingCall} (hq : q.isPlain = true) :
    Eff.Within F.toFrame (Eff.call q : StagingM (StagingAns q)) :=
  .call fun st ans => F.plain st ans hq

theorem invoke_plain {q : StagingCall} {α : Type} {answer : StagingAns q → Except PyExc α}
    (hq : q.isPlain = true) : Eff.Within F.toFrame (Eff.invoke q answer) :=
  .invoke fun st ans => F.plain st ans hq

/-! ### Identities and session artifacts -/

theorem catalogIdentityPemPathsForPrefix_within (host : WrapperHost) (certPrefix : String) :
    Eff.Within F.toFrame (catalogIdentityPemPathsForPrefix host certPrefix) :=
  .bind (invoke_plain rfl) fun _ => .ite (.pure _) <|
    .bind (invoke_plain rfl) fun _ => .ite (.pure _) <|
    .bind (invoke_plain rfl) fun _ => .bind (invoke_plain rfl) fun _ => .pure _

theorem dsaCatalogIdentityPem_within (host : WrapperHost) (config : TlsConfig) :
    Eff.Within F.toFrame (dsaCatalogIdentityPem host config) :=
  .ite (.pure _) <| .bind (catalogIdentityPemPathsForPrefix_within ..) fun _ =>
    .ite (.pure _) <| .ite (.pure _) (.throw _)

theorem ensureCertPaths_within (host : WrapperHost) (componentName : String)
    (config : TlsConfig) : Eff.Within F.toFrame (ensureCertPaths host componentName config) := by
  refine .bind (dsaCatalogIdentityPem_within ..) fun paths => ?_
  cases paths with
  | some paths => exact .pure _
  | none =>
    exact .ite (F.inline ..) <|
      .bind (catalogIdentityPemPathsForPrefix_within ..) fun _ => .ite (.pure _) (.throw _)

theorem tlsSessionStatePaths_within (host : WrapperHost) (config : TlsConfig) :
    Eff.Within F.toFrame (tlsSessionStatePaths host config) :=
  .bind (.ite (.pure _) (invoke_plain rfl)) fun _ => .pure _

theorem earlyDataArgv_within (host : WrapperHost) (config : TlsConfig) (flag : String) :
    Eff.Within F.toFrame (earlyDataArgv host config flag) :=
  .ite (.bind (.bind (tlsSessionStatePaths_within ..) fun _ =>
    .bind (invoke_plain rfl) fun _ => .pure _) fun _ => .pure _) (.pure _)

theorem clientIdentityArgv_within (host : WrapperHost) (componentName : String)
    (config : TlsConfig) (certFlag keyFlag : String) :
    Eff.Within F.toFrame (clientIdentityArgv host componentName config certFlag keyFlag) :=
  .ite (.pure _) <| .bind (ensureCertPaths_within ..) fun _ => .pure _

theorem isFoundFile_within (path : String) : Eff.Within F.toFrame (isFoundFile path) :=
  .ite (.pure _) (call_plain rfl)

/-! ### The hooks -/

namespace OpenSSL

theorem clientSessionArgv_within (host : WrapperHost) (config : TlsConfig) :
    Eff.Within F.toFrame (clientSessionArgv host config) :=
  .ite (.pure _) <| .bind (tlsSessionStatePaths_within ..) fun _ => .ite (.pure _) <|
    .ite (.bind (earlyDataArgv_within ..) fun _ => .pure _) (.pure _)

theorem serverTrustArgv_within (host : WrapperHost) (config : TlsConfig) (certPath : String) :
    Eff.Within F.toFrame (serverTrustArgv host config certPath) :=
  .ite (.pure _) <| .bind (catalogIdentityPemPathsForPrefix_within ..) fun _ =>
    .bind (isFoundFile_within _) fun _ => .pure _

theorem startServer_within (host : WrapperHost) (config : TlsConfig) :
    Eff.Within F.toFrame (startServer host config) :=
  .bind (ensureCertPaths_within ..) fun _ => .bind (invoke_plain rfl) fun _ =>
    .bind (serverTrustArgv_within ..) fun _ => .pure _

theorem startClient_within (host : WrapperHost) (config : TlsConfig) :
    Eff.Within F.toFrame (startClient host config) :=
  .bind (invoke_plain rfl) fun _ => .bind (clientSessionArgv_within ..) fun _ =>
    .bind (clientIdentityArgv_within ..) fun _ => .pure _

end OpenSSL

namespace GnuTLS

/-- A client stages no password file. -/
theorem stagePskPasswdFile_client_within (host : WrapperHost) (config : TlsConfig) :
    Eff.Within F.toFrame (stagePskPasswdFile host config .client) := by
  have hrole : isServerRole (some .client) = false := rfl
  unfold stagePskPasswdFile
  dsimp only
  rw [hrole, Bool.and_false]
  exact .pure _

theorem priorityAndMid_within {host : WrapperHost} {config : TlsConfig} {role : Role}
    (hpsk : Eff.Within F.toFrame (stagePskPasswdFile host config role)) :
    Eff.Within F.toFrame (priorityAndMid host config role) :=
  .bind hpsk fun _ => .ite (.throw _) (.pure _)

theorem trustCafile_within (host : WrapperHost) (config : TlsConfig) :
    Eff.Within F.toFrame (trustCafile host config) :=
  .bind (catalogIdentityPemPathsForPrefix_within ..) fun _ => .bind (isFoundFile_within _) fun _ =>
    .ite (.pure _) (.throw _)

theorem clientX509Cafile_within (host : WrapperHost) (config : TlsConfig) :
    Eff.Within F.toFrame (clientX509Cafile host config) :=
  .ite (trustCafile_within ..) <| .bind (catalogIdentityPemPathsForPrefix_within ..) fun _ =>
    .bind (isFoundFile_within _) fun _ => .ite (.pure _) (trustCafile_within ..)

theorem clientSessionBits_within (host : WrapperHost) (config : TlsConfig) :
    Eff.Within F.toFrame (clientSessionBits host config) :=
  .ite (.pure _) <| .bind (tlsSessionStatePaths_within ..) fun _ => .ite (.pure _) <|
    .ite (.bind (earlyDataArgv_within ..) fun _ => .pure _) (.pure _)

theorem gnutlsPopenEnv_within (host : WrapperHost) (sessionEnv : Dict String String) :
    Eff.Within F.toFrame (gnutlsPopenEnv host sessionEnv) :=
  .bind (invoke_plain rfl) fun _ => .ite (.pure _) (.pure _)

theorem startServer_within {host : WrapperHost} {config : TlsConfig}
    (hpsk : Eff.Within F.toFrame (stagePskPasswdFile host config .server)) :
    Eff.Within F.toFrame (startServer host config) :=
  .bind (ensureCertPaths_within ..) fun _ => .bind (priorityAndMid_within hpsk) fun _ =>
    .bind (invoke_plain rfl) fun _ => .pure _

theorem startClient_within (host : WrapperHost) (config : TlsConfig) :
    Eff.Within F.toFrame (startClient host config) :=
  .bind (priorityAndMid_within (stagePskPasswdFile_client_within ..)) fun _ =>
    .bind (clientSessionBits_within ..) fun _ => .bind (invoke_plain rfl) fun _ =>
    .bind (clientX509Cafile_within ..) fun _ => .bind (clientIdentityArgv_within ..) fun _ =>
    .bind (gnutlsPopenEnv_within ..) fun _ => .pure _

end GnuTLS

namespace NSS

theorem importRows_within (host : WrapperHost) (ps : List String) :
    Eff.Within F.toFrame (importRows host ps) := by
  induction ps with
  | nil => exact .pure _
  | cons p ps ih =>
    exact .bind (catalogIdentityPemPathsForPrefix_within ..) fun _ => .bind ih fun _ => .pure _

theorem nssServerNicknameForConfig_within (host : WrapperHost) (config : TlsConfig) :
    Eff.Within F.toFrame (nssServerNicknameForConfig host config) :=
  .ite (.bind (catalogIdentityPemPathsForPrefix_within ..) fun _ => .ite (.throw _) (.pure _))
    (.pure _)

theorem nssTstclntHostAndExtraArgv_within (host : WrapperHost) (hostname : String) (port : ℤ) :
    Eff.Within F.toFrame (nssTstclntHostAndExtraArgv host hostname port) := by
  refine .ite (.pure _) <| .bind (invoke_plain rfl) fun address => ?_
  cases address with
  | none => exact .pure _
  | some address => exact .pure _

/-- What follows the setup of the database in `_start_server`. -/
theorem startServer_within {host : WrapperHost} {config : TlsConfig}
    (hready : Eff.Within F.toFrame (ensureNssDbReady host)) :
    Eff.Within F.toFrame (startServer host config) :=
  .bind hready fun _ => .bind (invoke_plain rfl) fun _ =>
    .bind (nssServerNicknameForConfig_within ..) fun _ => .pure _

theorem startClient_within {host : WrapperHost} {config : TlsConfig}
    (hready : Eff.Within F.toFrame (ensureNssDbReady host)) :
    Eff.Within F.toFrame (startClient host config) :=
  .bind hready fun _ => .bind (nssTstclntHostAndExtraArgv_within ..) fun _ =>
    .bind (invoke_plain rfl) fun _ => .pure _

end NSS

end

/-! ### The servicer -/

/-- The call on files a call of the wrapper is. -/
def stageEvent : Event WrapperAns → Option (Event StagingAns)
  | ⟨.stage q, ans⟩ => some ⟨q, ans⟩
  | _ => none

/-- The calls on files of a trace. -/
def stageEvents (tr : List (Event WrapperAns)) : List (Event StagingAns) := tr.filterMap stageEvent

theorem stageEvents_append (tr tr' : List (Event WrapperAns)) :
    stageEvents (tr ++ tr') = stageEvents tr ++ stageEvents tr' := List.filterMap_append

theorem stageEvents_embed (tr : List (Event StagingAns)) :
    stageEvents (tr.map (Prog.embedEvent WrapperAns WrapperCall.stage)) = tr := by
  rw [stageEvents, List.filterMap_map]
  exact List.filterMap_some

/-- A specification of the files of a wrapper, from one of its programs on files. -/
def onFiles (F : Eff.Frame StagingAns Staging) : LookFrame where
  holds s tr s' := F.holds s.staging (stageEvents tr) s'.staging
  refl s := F.refl s.staging
  trans h h' := by
    rw [stageEvents_append]
    exact F.trans h h'
  look := by
    intro q s ans hq
    cases q <;> first | exact F.refl s.staging | cases hq
  remember s _ _ _ _ _ := F.refl s.staging

theorem stage_onFiles {F : Eff.Frame StagingAns Staging} {α : Type} {m : StagingM α}
    (hm : Eff.Within F m) : Looks (onFiles F) (stage m) := by
  intro s tr r s' h
  obtain ⟨tr₀, st, rfl, h₀, rfl⟩ := Eff.exec_zoom.mp h
  change F.holds s.staging (stageEvents _) st
  rw [stageEvents_embed]
  exact hm h₀

theorem call_onFiles {F : Eff.Frame StagingAns Staging} {q : WrapperCall}
    (hq : ∀ ans, stageEvent ⟨q, ans⟩ = none) : Looks (onFiles F) (Eff.call q) :=
  .call fun s ans => by
    change F.holds s.staging (stageEvents [⟨q, ans⟩]) s.staging
    rw [show stageEvents [⟨q, ans⟩] = [] by simp [stageEvents, hq]]
    exact F.refl _

theorem terminateProcessHard_onFiles {F : Eff.Frame StagingAns Staging} (proc : Option CliProc) :
    Looks (onFiles F) (terminateProcessHard proc) := by
  cases proc with
  | none => exact .pure ()
  | some p =>
    exact .bind (call_onFiles fun _ => rfl) fun _ => .ite (.pure ()) <|
      .bind (call_onFiles fun _ => rfl) fun _ => .ite (.pure ()) <|
      .bind (call_onFiles fun _ => rfl) fun _ => .ite (.pure ()) <|
      .bind (call_onFiles fun _ => rfl) fun _ => .ite (.pure ()) <|
      .bind (call_onFiles fun _ => rfl) fun _ => .pure ()

/-- What starts a process meets what its hook meets. -/
theorem startCli_onFiles {F : Eff.Frame StagingAns Staging} {prepare : StagingM Launch}
    (hm : Eff.Within F prepare) : Looks (onFiles F) (startCli prepare) :=
  .bind (stage_onFiles hm) fun _ =>
    .bind (.invoke fun s _ => F.refl s.staging) fun _ => .pure _

/-- The process fields are not files. -/
theorem procs_onFiles {F : Eff.Frame StagingAns Staging} (s : WrapperState)
    (server client : Option CliProc) :
    (onFiles F).holds s [] { s with serverProc := server, clientProc := client } :=
  F.refl s.staging

/-- An ESTABLISH meets what the hooks of its role meet. -/
theorem handleEstablish_onFiles {F : Eff.Frame StagingAns Staging} {b : CliBackend}
    {request : OperationRequest}
    (hserver : request.role = .server → Eff.Within F (b.startServer request.config))
    (hclient : request.role ≠ .server → Eff.Within F (b.startClient request.config))
    (htranslation : Eff.Within F (b.stageTranslation request.config request.role)) :
    Looks (onFiles F) (handleEstablish b request) := by
  have hvalidate : Eff.Within F (validateConfigSupported b request.config request.role) :=
    .bind (.ofExcept _) fun _ => .bind (.ite (.pure _) htranslation) fun _ =>
      .bind (.ofExcept _) fun _ => .ite (.pure _) (.throw _)
  exact handleEstablish_looks terminateProcessHard_onFiles procs_onFiles (stage_onFiles hvalidate)
    (fun hrole => startCli_onFiles (hserver hrole)) fun hrole => startCli_onFiles (hclient hrole)

/-- A CLOSE meets what the removal of the tracked files and of the database meets. -/
theorem handleClose_onFiles {F : Eff.Frame StagingAns Staging} {b : CliBackend}
    (hpems : Eff.Within F cleanupEphemeralPemIfNeeded) (hdb : Eff.Within F b.cleanupDb) :
    Looks (onFiles F) (handleClose b) :=
  handleClose_looks terminateProcessHard_onFiles procs_onFiles (stage_onFiles hpems)
    (stage_onFiles hdb)

end TlsInterop
