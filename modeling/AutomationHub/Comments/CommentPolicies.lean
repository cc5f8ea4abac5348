import AutomationHub.Comments.CommentWrites

/-!
Comments are read and written through the caller's own client: what the policies hide is
not found, and every write has to satisfy them.
-/

set_option autoImplicit false

namespace AutomationHub.Comments

open Foundation Model Auth Database Program Table

def CommentStore.seen (caller : UUID) (state : CommentStore) (commentId : UUID) : Option CommentRecord :=
  (state.comments.find? commentId).filter (state.tables.commentsSelect caller)

/-- The caller's client, as far as it reads. -/
def readAs (caller : UUID) : Handler commentSignature CommentStore
  | .getComment commentId, state =>
      ((state.seen caller commentId).elim (.error (.database (.recordNotFound "comments" commentId))) .ok, state.tick)
  | .findComment commentId, state => (.ok (state.seen caller commentId), state.tick)
  | other, state => commentHandler other state

/-- The write satisfies the policies. -/
def commentPermitted (caller : UUID) (state : CommentStore) : CommentCall → Prop
  | .createComment requestId authorId body parentCommentId =>
      state.tables.mayInsertComment caller
        ((newComment state.now requestId authorId body parentCommentId).build state.comments.next) = true
  | .softDelete commentId deletedBy => ∀ row, state.comments.find? commentId = some row →
      state.tables.mayUpdateComment caller row ((softDeleteEdit state.now deletedBy).apply row) = true
  | _ => True

/-- The caller's identity is that of the profile. -/
structure Caller (tables : TenantTables) (identity : AuthenticatedIdentity) (profile : ProfileRecord) : Prop where
  found : tables.profiles.find? identity.userId = some profile
  role : profile.role = identity.role
  company : profile.companyId = identity.companyId

/-- The caller takes part in the request of that id. -/
def JoinsRequest (tables : TenantTables) (caller : UUID) (profile : ProfileRecord) (requestId : UUID) : Prop :=
  ∃ request, tables.requests.find? requestId = some request ∧ TenantTables.Joins tables caller profile request

theorem parentInsert_iff_joins {tables : TenantTables} {identity : AuthenticatedIdentity} {profile : ProfileRecord}
    {requestId : UUID} {request : RequestRecord} (caller : Caller tables identity profile)
    (live : tables.requests.find? requestId = some request) (own : request.companyId = identity.companyId) :
    tables.parentInsert identity.userId requestId = true ∧ tables.parentSelect identity.userId requestId = true ↔
      JoinsRequest tables identity.userId profile requestId := by
  have company : request.companyId = profile.companyId := own.trans caller.company.symm
  refine (and_congr (TenantTables.parentInsert_iff caller.found live)
    (TenantTables.parentSelect_iff caller.found live)).trans ?_
  constructor
  · rintro ⟨⟨-, joins⟩, -⟩
    exact ⟨request, live, joins⟩
  · rintro ⟨other, reached, joins⟩
    obtain rfl : other = request := Option.some.inj (reached.symm.trans live)
    exact ⟨⟨company, joins⟩, company, .inr joins⟩

/-- Calls that no policy concerns. -/
def CommentCall.plain : CommentCall → Bool
  | .utcNow | .getRequest _ | .listStages _ | .recordEvent .. => true
  | _ => false

/-- `add_comment` gets as far as its insert. -/
def CommentStore.insertReached (identity : AuthenticatedIdentity) (state : CommentStore) (requestId : UUID) (body : String)
    (parentCommentId : Option UUID) : Bool :=
  (commentCreate body).toBool && state.mayView identity requestId &&
    parentCommentId.all fun parent => answersTo requestId (state.seen identity.userId parent)

section Plain

variable {identity : AuthenticatedIdentity} {requestId : UUID} {caller : UUID} {call : CommentCall}

theorem only_perform (allowed : call.plain = true) : (perform call).Only (CommentCall.plain · = true) :=
  only_fallible (fun reply => by cases reply <;> rfl) allowed

theorem only_translatingNotFound (allowed : call.plain = true) :
    (translatingNotFound (perform call)).Only (CommentCall.plain · = true) := by
  apply (only_perform allowed).tryCatch
  rintro (error | error)
  · cases error <;> trivial
  · trivial

theorem only_isExpired : (isExpired identity).Only (CommentCall.plain · = true) := by
  unfold isExpired
  cases identity.expiresAt with
  | none => trivial
  | some expiresAt => exact (only_perform rfl).bind fun _ => trivial

theorem only_authorizeView : (authorizeView identity requestId).Only (CommentCall.plain · = true) := by
  apply (only_translatingNotFound rfl).bind
  intro request
  split
  · have assigned : (isAssignedToAnyStage identity requestId).Only (CommentCall.plain · = true) := by
      unfold isAssignedToAnyStage
      split
      · trivial
      · exact (only_perform rfl).bind fun _ => trivial
    apply assigned.bind
    intro isAssignedApprover
    apply only_isExpired.bind
    intro expired
    split <;> trivial
  · trivial

theorem only_authorizeCommentModeration :
    (authorizeCommentModeration identity).Only (CommentCall.plain · = true) := by
  apply only_isExpired.bind
  intro expired
  split
  · trivial
  · split <;> trivial

theorem permitted_of_plain (allowed : call.plain = true) (state : CommentStore) : commentPermitted caller state call := by
  cases call with
  | createComment | softDelete => cases allowed
  | _ => trivial

theorem readAs_of_plain (allowed : call.plain = true) (state : CommentStore) :
    readAs caller call state = commentHandler call state := by
  cases call with
  | getComment | findComment => cases allowed
  | _ => rfl

theorem run_plain {check : CommentProgram Unit} {permitted : Bool} {state : CommentStore}
    (only : check.Only (CommentCall.plain · = true)) (checks : Checks state check permitted) :
    ∃ result after, check.run (readAs caller) state = (result, after) ∧ result.toBool = permitted ∧
      (permitted = true → state.Later after) := by
  obtain ⟨result, after, reached, same, later⟩ := checks
  have agree := (only.mono fun _ allowed => @readAs_of_plain caller _ allowed).run_agree state
  exact ⟨result, after, agree.trans reached.run, same, later⟩

theorem admitted_plain {α : Type} {check : CommentProgram Unit} {next : Unit → CommentProgram α} {permitted : Bool}
    {state : CommentStore} (only : check.Only (CommentCall.plain · = true)) (checks : Checks state check permitted)
    {holds : Prop} (rest : permitted = true → ∀ ticks,
      ((next ()).Admitted (commentPermitted caller) (readAs caller) (state.atTick ticks) ↔ holds)) :
    (check >>= next).Admitted (commentPermitted caller) (readAs caller) state ↔ (permitted = true → holds) := by
  have free : check.Only fun call => ∀ state, commentPermitted caller state call :=
    only.mono fun _ allowed => permitted_of_plain allowed
  obtain ⟨result, after, ran, rfl, later⟩ := @run_plain caller check permitted state only checks
  cases result with
  | error fault => exact iff_of_true (admitted_bind_of_error free ran) fun passed => nomatch passed
  | ok value =>
      obtain ⟨ticks, rfl⟩ := later rfl
      rw [admitted_bind_of_run free ran, rest rfl ticks]
      exact ⟨fun held _ => held, fun held => held rfl⟩

end Plain

section Operations

variable {identity : AuthenticatedIdentity} {state : CommentStore} {profile : ProfileRecord} {requestId : UUID}

theorem checkParent_admitted {α : Type} {next : Unit → CommentProgram α} {holds : Prop}
    (parentCommentId : Option UUID) (rest : ∀ ticks, ((next ()).Admitted (commentPermitted identity.userId)
      (readAs identity.userId) (state.atTick ticks) ↔ holds)) :
    (checkParent requestId parentCommentId >>= next).Admitted (commentPermitted identity.userId) (readAs identity.userId)
      state ↔ ((parentCommentId.all fun parent => answersTo requestId (state.seen identity.userId parent)) = true → holds) := by
  cases parentCommentId with
  | none => exact (rest state.ticks).trans ⟨fun held _ => held, fun held => held rfl⟩
  | some parent =>
      refine (admitted_call ..).trans ((and_iff_right trivial).trans ?_)
      have onward := rest (state.ticks + 1)
      change ((if answersTo requestId (state.seen identity.userId parent) = true then (.done () : CommentProgram Unit)
        else .raised (.app (.validation parentComplaint))) >>= next).Admitted _ _ (state.atTick (state.ticks + 1)) ↔ _
      rw [Option.all_some]
      cases answersTo requestId (state.seen identity.userId parent) with
      | true => exact onward.trans ⟨fun held _ => held, fun held => held rfl⟩
      | false => exact iff_of_true trivial fun passed => nomatch passed

theorem createComment_admitted {text : String} {parentCommentId : Option UUID} :
    ((translating (perform (.createComment requestId identity.userId text parentCommentId))) >>= fun created : CommentRecord => do
        translating (perform (.recordEvent .commentCreated identity.userId requestId created.id))
        return created).Admitted (commentPermitted identity.userId) (readAs identity.userId) state ↔
      state.tables.parentInsert identity.userId requestId = true ∧
        state.tables.parentSelect identity.userId requestId = true := by
  refine (admitted_call ..).trans ((and_iff_left ?_).trans ?_)
  · cases (readAs identity.userId (.createComment requestId identity.userId text parentCommentId) state).1 with
    | error fault => cases fault <;> trivial
    | ok created =>
        refine (admitted_call ..).mpr ⟨trivial, ?_⟩
        trivial
  · simp [commentPermitted, TenantTables.mayInsertComment, TenantTables.commentsInsert, TenantTables.commentsSelect,
      newComment]

/-- Every statement of `add_comment` satisfies the policies unless it gets to the insert for a caller who takes no part
in the request. -/
theorem addComment_admitted_iff (caller : Caller state.tables identity profile) (body : String)
    (parentCommentId : Option UUID) :
    (addComment identity requestId body parentCommentId).Admitted (commentPermitted identity.userId)
        (readAs identity.userId) state ↔
      (state.insertReached identity requestId body parentCommentId = true →
        JoinsRequest state.tables identity.userId profile requestId) := by
  rw [CommentStore.insertReached, addComment]
  cases accepted : commentCreate body with
  | error fault => exact iff_of_true trivial fun reached => by simp [Except.toBool] at reached
  | ok text =>
      have inserting : state.mayView identity requestId = true → ∀ ticks, ((checkParent requestId parentCommentId >>= fun _ =>
          translating (perform (.createComment requestId identity.userId text parentCommentId)) >>=
            fun created : CommentRecord => do
              translating (perform (.recordEvent .commentCreated identity.userId requestId created.id))
              return created).Admitted (commentPermitted identity.userId) (readAs identity.userId) (state.atTick ticks) ↔
          ((parentCommentId.all fun parent => answersTo requestId (state.seen identity.userId parent)) = true →
            JoinsRequest state.tables identity.userId profile requestId)) := by
        intro viewable ticks
        apply checkParent_admitted
        intro later
        obtain ⟨request, live, own⟩ := (Option.any_eq_true ..).mp viewable
        rw [createComment_admitted]
        exact parentInsert_iff_joins caller live (beq_iff_eq.mp (Bool.and_eq_true_iff.mp own).1)
      refine (admitted_plain only_authorizeView checks_authorizeView inserting).trans ?_
      simp only [Except.toBool, Bool.true_and, Bool.and_eq_true, and_imp]

theorem removeComment_admitted (caller : Caller state.tables identity profile) (commentId : UUID) :
    (removeComment identity commentId).Admitted (commentPermitted identity.userId) (readAs identity.userId) state := by
  refine (admitted_call ..).mpr ⟨trivial, ?_⟩
  have reply : readAs identity.userId (.getComment commentId) state =
    ((state.seen identity.userId commentId).elim (.error (.database (.recordNotFound "comments" commentId))) .ok,
      state.tick) := rfl
  rw [reply]
  cases seen : state.seen identity.userId commentId with
  | none => trivial
  | some existing =>
      obtain ⟨found, visible⟩ := Option.filter_eq_some_iff.mp seen
      have free : ∀ call : CommentCall, call.plain = true → ∀ state, commentPermitted identity.userId state call :=
        fun _ => permitted_of_plain
      have fetched : (translatingNotFound (perform (.getRequest existing.requestId))).run (readAs identity.userId) state.tick =
          ((state.tables.requests.find? existing.requestId).elim
            (.error (.app (.notFound "requests" existing.requestId))) .ok, state.atTick (state.ticks + 2)) :=
        (((only_translatingNotFound rfl).mono fun _ => readAs_of_plain).run_agree state.tick).trans reaches_getRequest.run
      apply (admitted_bind_iff ((only_translatingNotFound rfl).mono free)).mpr
      intro request returned
      rw [fetched] at returned ⊢
      cases live : state.tables.requests.find? existing.requestId with
      | none =>
          rw [live] at returned
          cases returned
      | some parent =>
          rw [live] at returned
          obtain rfl : parent = request := Except.ok.inj returned
          by_cases own : parent.companyId = identity.companyId
          · rw [if_pos own]
            refine (admitted_plain only_authorizeCommentModeration checks_moderation ?_).mpr fun _ => trivial
            rintro moderator ticks
            refine iff_true_intro ((admitted_call ..).mpr ⟨?_, ?_⟩)
            · intro row reached
              obtain rfl : row = existing := Option.some.inj (reached.symm.trans found)
              have administrator : profile.role = .admin :=
                caller.role.trans (beq_iff_eq.mp (Bool.and_eq_true_iff.mp moderator).2)
              have moderate : state.tables.parentModerate identity.userId row.requestId = true :=
                (TenantTables.parentModerate_iff caller.found live).mpr ⟨administrator, own.trans caller.company.symm⟩
              exact Bool.and_eq_true_iff.mpr
                ⟨Bool.and_eq_true_iff.mpr ⟨Bool.and_eq_true_iff.mpr ⟨visible, moderate⟩, moderate⟩, visible⟩
            · cases (readAs identity.userId (.softDelete commentId identity.userId)
                ((state.atTick (state.ticks + 2)).atTick ticks)).1 with
              | error fault => cases fault <;> trivial
              | ok removed => exact (admitted_call ..).mpr ⟨trivial, trivial⟩
          · rw [if_neg own]
            trivial

end Operations

end AutomationHub.Comments
