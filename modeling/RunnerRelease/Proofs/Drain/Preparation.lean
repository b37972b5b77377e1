import RunnerRelease.Drain.Basic
import RunnerRelease.Proofs.Text.Utf8

/-!
# What the drain starts with

The command is prepared, with a job and its clients, unless its scope, its policy, its cluster or
its token stands against it. The policy is the one in the file, or the default one where none can
be read from it.
-/

namespace RunnerRelease.Drain

variable {s : Surroundings} {a : Arguments}

/-- What keeps the command from taking a round. -/
inductive Unprepared (s : Surroundings) (a : Arguments) : Prop
  | scope {problem : Scope.Problem}
      (h : Scope.ofParts a.enterprise a.organization a.repository = .error problem)
  | policy {policy : Policy} {problem : Policy.Problem}
      (hread : Policy.ofFile (s.files a.config) = .ok policy)
      (hcheck : policy.check = .error problem)
  | cluster (h : s.kubernetes = none)
  | token (h : ∀ token, s.environment.lookup "GITHUB_TOKEN" = some token →
      Text.isBlankText token = true)

/-- The policy is what the content of a file says, or the default one if that says nothing. -/
def UsesPolicy (content : Option Text.Bytes) (policy : Policy) : Prop :=
  match Policy.ofFile content with
  | .ok found => policy = found
  | .error _ => policy = {}

/-- The clients are made from what the command finds around it. -/
structure Connected (s : Surroundings) (conn : Connection) : Prop where
  cluster : s.kubernetes = some conn.kubernetes
  token : s.environment.lookup "GITHUB_TOKEN" = some conn.github.token
  unblank : Text.isBlankText conn.github.token = false
  now : conn.now = s.now

/-- The job is what the arguments ask for, under the policy that is used. -/
structure Prepared (s : Surroundings) (a : Arguments) (job : Job) (conn : Connection) : Prop
    extends Connected s conn where
  «namespace» : job.namespace = a.namespace
  pod : job.pod = a.pod
  runner : job.runner = a.runner.getD a.pod
  dryRun : job.dryRun = a.dryRun
  scope : Scope.ofParts a.enterprise a.organization a.repository = .ok job.scope
  policy : UsesPolicy (s.files a.config) job.policy
  checked : job.policy.check = .ok ()

theorem usesPolicy_loadPolicy (content : Option Text.Bytes) :
    UsesPolicy content (loadPolicy content).2 := by
  rw [UsesPolicy, loadPolicy]
  cases Policy.ofFile content <;> rfl

/-- The default policy passes its own check. -/
theorem check_default : ({} : Policy).check = .ok () := rfl

/-- What is wrong with a policy that is used has been read from the file. -/
theorem ofFile_of_check_eq_error {content : Option Text.Bytes} {policy : Policy}
    {problem : Policy.Problem} (h : UsesPolicy content policy)
    (hcheck : policy.check = .error problem) : Policy.ofFile content = .ok policy := by
  rw [UsesPolicy] at h
  cases hread : Policy.ofFile content with
  | ok found =>
      rw [hread] at h
      rw [h]
  | error _ =>
      rw [hread] at h
      rw [h, check_default] at hcheck
      cases hcheck

/-- The texts of variables come through the settings as they are. -/
theorem bind_decode?_map_toBytes (text : Option String) :
    (text.map Text.toBytes).bind Text.decode? = text := by
  cases text with
  | none => rfl
  | some text => exact Text.decode?_toBytes text

theorem ofEnvironment_of_no_token {token : Option String} (address : Option String)
    (h : token.filter (fun text => !Text.isBlankText text) = none) :
    GitHub.Settings.ofEnvironment (token.map Text.toBytes) (address.map Text.toBytes) =
      .error (.notConfigured "GITHUB_TOKEN is not set") := by
  rw [GitHub.Settings.ofEnvironment]
  simp only [bind_decode?_map_toBytes, h]

/-- With a token that is not blank there are settings, and a client can be made from them. -/
theorem exists_client_of_token {token : String} (address : Option String)
    (h : Text.isBlankText token = false) :
    ∃ settings client,
      GitHub.Settings.ofEnvironment (some (Text.toBytes token)) (address.map Text.toBytes) =
        .ok settings ∧
      GitHub.Client.ofSettings settings = .ok client ∧ client.token = token := by
  have hgiven : (some token).filter (fun text => !Text.isBlankText text) = some token := by
    rw [Option.filter_some, h]
    rfl
  have hagent : Http.isHeaderValue "cto-runner-controller/1.0" = true := by decide
  rw [GitHub.Settings.ofEnvironment, ← Option.map_some]
  simp only [bind_decode?_map_toBytes, hgiven]
  cases address.filter (fun text => !Text.isBlankText text) with
  | none => exact ⟨_, _, rfl, if_pos hagent, rfl⟩
  | some baseUrl => exact ⟨_, _, rfl, if_pos hagent, rfl⟩

theorem connect_of_no_cluster (h : s.kubernetes = none) :
    connect s = .error (.failure "Failed to connect to Kubernetes" none) := by
  rw [connect, h]

/-- Without a token that is not blank there are no clients. -/
theorem connect_of_no_token {kubernetes : Kubernetes.Client}
    (hcluster : s.kubernetes = some kubernetes)
    (h : (s.environment.lookup "GITHUB_TOKEN").filter (fun text => !Text.isBlankText text) = none) :
    connect s = .error
      (.failure (Failure.github (.notConfigured "GITHUB_TOKEN is not set")).message none) := by
  rw [connect, hcluster]
  simp only [ofEnvironment_of_no_token _ h]
  rfl

theorem connect_of_token {kubernetes : Kubernetes.Client} {token : String}
    (hcluster : s.kubernetes = some kubernetes)
    (htoken : s.environment.lookup "GITHUB_TOKEN" = some token)
    (hunblank : Text.isBlankText token = false) :
    ∃ conn, connect s = .ok conn ∧ Connected s conn := by
  obtain ⟨settings, client, hsettings, hclient, htext⟩ :=
    exists_client_of_token (s.environment.lookup "GITHUB_API_URL") hunblank
  refine ⟨{ github := client, kubernetes, now := s.now }, ?_, hcluster, ?_, ?_, rfl⟩
  · rw [connect, hcluster]
    simp only [htoken, Option.map_some, hsettings, hclient, bind, Except.bind]
  · rw [htoken, htext]
  · rw [htext, hunblank]

/-- The clients are there, or the cluster or the token stands against them. -/
theorem connect_cases (s : Surroundings) (a : Arguments) :
    (Unprepared s a ∧ ∃ message cause, connect s = .error (.failure message cause)) ∨
      ∃ conn, connect s = .ok conn ∧ Connected s conn := by
  cases hcluster : s.kubernetes with
  | none => exact .inl ⟨.cluster hcluster, _, _, connect_of_no_cluster hcluster⟩
  | some kubernetes =>
      cases htoken : s.environment.lookup "GITHUB_TOKEN" with
      | none =>
          refine .inl ⟨.token ?_, _, _, connect_of_no_token hcluster ?_⟩
          · rw [htoken]
            simp
          · rw [htoken]
            rfl
      | some token =>
          cases hblank : Text.isBlankText token with
          | true =>
              refine .inl ⟨.token ?_, _, _, connect_of_no_token hcluster ?_⟩
              · rw [htoken]
                rintro _ ⟨⟩
                exact hblank
              · rw [htoken, Option.filter_some, hblank]
                rfl
          | false => exact .inr (connect_of_token hcluster htoken hblank)

/-- A command that is prepared has not been kept from it. -/
theorem Prepared.not_unprepared {job : Job} {conn : Connection} (h : Prepared s a job conn) :
    ¬ Unprepared s a := by
  intro hunprepared
  cases hunprepared with
  | scope hscope => cases hscope.symm.trans h.scope
  | @policy policy problem hread hcheck =>
      have hpolicy := h.policy
      rw [UsesPolicy, hread] at hpolicy
      rw [← hpolicy, h.checked] at hcheck
      cases hcheck
  | cluster hcluster => cases hcluster.symm.trans h.cluster
  | token htoken => cases (htoken _ h.token).symm.trans h.unblank

/-- The command is prepared, or it ends with an error because something stands against it. -/
theorem prepare_cases (s : Surroundings) (a : Arguments) :
    (Unprepared s a ∧ ∃ entries message cause,
        prepare s a = (entries, .error (.failure message cause))) ∨
      ∃ entries job conn, prepare s a = (entries, .ok (job, conn)) ∧ Prepared s a job conn := by
  cases hscope : Scope.ofParts a.enterprise a.organization a.repository with
  | error problem =>
      refine .inl ⟨.scope hscope, ?_⟩
      rw [prepare, hscope]
      exact ⟨_, _, _, rfl⟩
  | ok scope =>
      have huses := usesPolicy_loadPolicy (s.files a.config)
      rw [prepare, hscope]
      dsimp only
      generalize loadPolicy (s.files a.config) = loaded at huses
      obtain ⟨warnings, policy⟩ := loaded
      dsimp only at huses ⊢
      cases hcheck : policy.check with
      | error problem =>
          exact .inl ⟨.policy (ofFile_of_check_eq_error huses hcheck) hcheck, _, _, _, rfl⟩
      | ok _ =>
          rcases connect_cases s a with ⟨hunprepared, message, cause, hconnect⟩ |
            ⟨conn, hconnect, hconnected⟩
          · rw [hconnect]
            exact .inl ⟨hunprepared, _, _, _, rfl⟩
          · rw [hconnect]
            refine .inr ⟨_, _, _, rfl, ⟨hconnected, rfl, rfl, rfl, rfl, hscope, huses, hcheck⟩⟩

end RunnerRelease.Drain
