import EmailComposer.Proofs.Service.Render

namespace EmailComposer.Service

/-!
# What the service answers

Whatever the path, the method and the body of a request, the service answers with one of
five statuses, and with a bad request exactly for the malformed bodies. The exception are
bodies at which composing breaks off: these are malformed too, but the failure is passed on
to the caller.
-/

open EmailComposer.Text
open EmailComposer.Json
open EmailComposer.Composition

/-- The statuses that the service answers with. -/
def statuses : List Nat :=
  [200, 400, 404, 405, 422]

/-- The request posts a body to be rendered or to be validated. -/
def IsPosted (request : Request) : Prop :=
  (Route.find? request.path = some .render ∨ Route.find? request.path = some .validate) ∧
    request.method = "POST"

/-- The request posts a body at which composing breaks off. -/
def IsAbandoned (request : Request) : Prop :=
  IsPosted request ∧
    ∃ members template raw typeName, BreaksOff request.payload members template raw typeName

/-- A request is answered with one of the statuses, and as a bad one exactly if it posts a
malformed body, as far as bodies are posted at all. -/
structure IsAnswer (request : Request) (response : Response) : Prop where
  status : response.status ∈ statuses
  malformed : IsPosted request → (response.status = 400 ↔ IsMalformed request.payload)

theorem status_render
    (settings : Settings)
    (payload : Payload)
    (document : Document) :
    (render settings payload document).status ∈ [200, 422] := by
  unfold render
  dsimp only
  split
  · exact List.mem_cons_of_mem _ List.mem_cons_self
  · split
    · exact List.mem_cons_of_mem _ List.mem_cons_self
    · exact List.mem_cons_self

theorem status_validate
    (payload : Payload)
    (document : Document) :
    (validate payload document).status ∈ [200, 422] :=
  List.mem_cons_self

/-- A body is answered by what becomes of its document, or as a bad request, unless composing
breaks off. -/
theorem withDocument_answers
    (settings : Settings)
    {request : Request}
    {answer : Payload → Document → Response}
    (answers : ∀ payload document, (answer payload document).status ∈ [200, 422]) :
    (∃ members template raw typeName,
        BreaksOff request.payload members template raw typeName) ∨
      ∃ response,
        withDocument settings request answer = .ok response ∧ response.status ∈ statuses ∧
          (response.status = 400 ↔ IsMalformed request.payload) := by
  by_cases isMalformed : IsMalformed request.payload
  · rcases isMalformed.withDocument_cases settings rfl answer with
        ⟨response, isOutcome, isBad⟩ | ⟨members, template, raw, typeName, breaksOff⟩
    · exact .inr ⟨response, isOutcome, by rw [isBad]; decide, iff_of_true isBad isMalformed⟩
    · exact .inl ⟨members, template, raw, typeName, breaksOff⟩
  · obtain ⟨members, template, raw, read, isRequest⟩ := exists_isRequest isMalformed
    obtain ⟨document, isComposed⟩ := isRequest.exists_isComposed settings
    have answered := answers
      ⟨template.name, raw, personalData members, isSet members "strict",
        isSet members "inlineCss"⟩ document
    refine .inr ⟨_, isRequest.withDocument_eq isComposed rfl answer, ?_, ?_⟩
    · exact (show [200, 422] ⊆ statuses by decide) answered
    · refine iff_of_false (fun isBad => ?_) isMalformed
      rw [isBad] at answered
      exact absurd answered (by decide)

/-- The answer to a request that posts no body. -/
theorem handle_of_not_isPosted
    (settings : Settings)
    (timestamp : Text)
    {request : Request}
    (notPosted : ¬ IsPosted request) :
    ∃ response, handle settings timestamp request = .ok response ∧ response.status ∈ statuses := by
  unfold handle
  cases found : Route.find? request.path with
  | none => exact ⟨.error 404 "Not found", rfl, by decide⟩
  | some route =>
      dsimp only
      by_cases isMethod : request.method = route.method
      · rw [if_pos isMethod]
        cases route with
        | root => exact ⟨health timestamp, rfl, List.mem_cons_self⟩
        | render => exact absurd ⟨.inl found, isMethod⟩ notPosted
        | validate => exact absurd ⟨.inr found, isMethod⟩ notPosted
      · rw [if_neg isMethod]
        exact ⟨.error 405 "Method not allowed", rfl, by decide⟩

/-- A posted body is answered with what becomes of its document. -/
theorem handle_of_isPosted
    (settings : Settings)
    (timestamp : Text)
    {request : Request}
    (isPosted : IsPosted request) :
    ∃ answer : Payload → Document → Response,
      (∀ payload document, (answer payload document).status ∈ [200, 422]) ∧
        handle settings timestamp request = withDocument settings request answer := by
  obtain ⟨isRoute, isMethod⟩ := isPosted
  unfold handle
  rcases isRoute with found | found
  · refine ⟨render settings, status_render settings, ?_⟩
    rw [found]
    exact if_pos isMethod
  · refine ⟨validate, status_validate, ?_⟩
    rw [found]
    exact if_pos isMethod

/-- A posted body at which composing breaks off is malformed, and nothing is answered. -/
theorem IsAbandoned.handle_eq
    {request : Request}
    (isAbandoned : IsAbandoned request)
    (settings : Settings)
    (timestamp : Text) :
    IsMalformed request.payload ∧
      ∃ typeName, handle settings timestamp request = .error (.noBlock typeName) := by
  obtain ⟨isPosted, members, template, raw, typeName, breaksOff⟩ := isAbandoned
  obtain ⟨answer, _, routed⟩ := handle_of_isPosted settings timestamp isPosted
  exact ⟨breaksOff.isMalformed, typeName,
    routed.trans (breaksOff.withDocument_eq settings rfl answer)⟩

/-- Any other request is answered. -/
theorem exists_isAnswer
    (settings : Settings)
    (timestamp : Text)
    {request : Request}
    (notAbandoned : ¬ IsAbandoned request) :
    ∃ response,
      handle settings timestamp request = .ok response ∧ IsAnswer request response := by
  by_cases isPosted : IsPosted request
  · obtain ⟨answer, answers, routed⟩ := handle_of_isPosted settings timestamp isPosted
    rcases withDocument_answers settings answers with
        ⟨members, template, raw, typeName, breaksOff⟩ | ⟨response, isOutcome, status, malformed⟩
    · exact absurd ⟨isPosted, members, template, raw, typeName, breaksOff⟩ notAbandoned
    · exact ⟨response, routed.trans isOutcome, status, fun _ => malformed⟩
  · obtain ⟨response, isOutcome, status⟩ := handle_of_not_isPosted settings timestamp isPosted
    exact ⟨response, isOutcome, status, fun posted => absurd posted isPosted⟩

/--
A request is answered with one of the statuses, and as a bad one exactly if it posts a
malformed body, unless the body is one at which composing breaks off. Such a body is
malformed as well, but the failure goes on to the caller.
-/
theorem isAnswered_iff
    (settings : Settings)
    (timestamp : Text)
    (request : Request) :
    ((∃ response,
        handle settings timestamp request = .ok response ∧ IsAnswer request response) ↔
          ¬ IsAbandoned request) ∧
      ((IsMalformed request.payload ∧
          ∃ typeName, handle settings timestamp request = .error (.noBlock typeName)) ↔
            IsAbandoned request) := by
  have abandoned : IsAbandoned request → _ := fun isAbandoned =>
    isAbandoned.handle_eq settings timestamp
  refine ⟨⟨?_, exists_isAnswer settings timestamp⟩, ⟨?_, abandoned⟩⟩
  · rintro ⟨response, isOutcome, _⟩ isAbandoned
    obtain ⟨_, typeName, fails⟩ := abandoned isAbandoned
    rw [fails] at isOutcome
    cases isOutcome
  · rintro ⟨_, typeName, fails⟩
    by_contra notAbandoned
    obtain ⟨response, isOutcome, _⟩ := exists_isAnswer settings timestamp notAbandoned
    rw [fails] at isOutcome
    cases isOutcome

/-- A body whose only block is a number. -/
def numberMembers : Members :=
  [("templateType", .string "newsletter"), ("blocks", .array [.integer 1])]

/-- It is malformed, but it is not answered. -/
theorem not_answered_of_number :
    IsMalformed (.object numberMembers) ∧
      ∃ settings,
        Settings.read ⟨[]⟩ = .ok settings ∧
          handle settings "now" ⟨"/render", "POST", .object numberMembers⟩ =
            .error (.noBlock "int") := by
  have breaksOff : BreaksOff (.object numberMembers) numberMembers .newsletter [.integer 1] "int" :=
    ⟨rfl, rfl, rfl, .inl rfl, [], .integer 1, [], rfl, by simp, by simp, rfl⟩
  refine ⟨breaksOff.isMalformed, ?_⟩
  obtain ⟨settings, isRead⟩ : ∃ settings, (Settings.read ⟨[]⟩).toOption = some settings :=
    Option.isSome_iff_exists.mp (by decide +kernel)
  have fails : withDocument settings ⟨"/render", "POST", .object numberMembers⟩
      (render settings) = .error (.noBlock "int") :=
    breaksOff.withDocument_eq settings rfl (render settings)
  exact ⟨settings, toOption_eq_some_iff.mp isRead, fails⟩

end EmailComposer.Service
