import SlashCommands.Rest.Api

/-!
# Endpoints

What is sent to the platform for what, spelled out: the method, the address, the authorization and
the body of a request, and the words that reports use for it.  `Api.errand_iff`, `Api.roles_eq` and
`Callback.errand_of_isCarriedBy` say that the errands are just these.
-/

namespace SlashCommands.Rest

/-- Holds of an address and of what is left of it without the slashes at its end. -/
structure IsTrimmed (address base : String) : Prop where
  slashes : ∃ count, address.toList = base.toList ++ List.replicate count '/'
  no_slash : base.toList.getLast? ≠ some '/'

/-- What is left of an address without the slashes at its end is determined. -/
theorem IsTrimmed.trimSlashes_eq {address base : String} (h : IsTrimmed address base) :
    trimSlashes address = base := by
  obtain ⟨count, hslashes⟩ := h.slashes
  rw [trimSlashes, hslashes, List.reverse_append, List.reverse_replicate,
    List.dropWhile_append_of_pos (fun c hc => by simp [List.eq_of_mem_replicate hc])]
  -- read from its end, what is left does not start with a slash
  have hdrop : base.toList.reverse.dropWhile (· == '/') = base.toList.reverse := by
    cases hreverse : base.toList.reverse with
    | nil => rfl
    | cons c rest =>
      refine List.dropWhile_cons_of_neg fun hc => h.no_slash ?_
      rw [← List.head?_reverse, hreverse, List.head?_cons, beq_iff_eq.mp hc]
  rw [hdrop, List.reverse_reverse, String.ofList_toList]

theorem isTrimmed_trimSlashes (address : String) : IsTrimmed address (trimSlashes address) := by
  have hlist : (trimSlashes address).toList =
      (address.toList.reverse.dropWhile (· == '/')).reverse := String.toList_ofList
  refine ⟨⟨(address.toList.reverse.takeWhile (· == '/')).length, ?_⟩, ?_⟩
  · have htake : address.toList.reverse.takeWhile (· == '/') =
        List.replicate (address.toList.reverse.takeWhile (· == '/')).length '/' :=
      List.eq_replicate_of_mem fun c hc => beq_iff_eq.mp (List.all_eq_true.mp List.all_takeWhile c hc)
    rw [hlist, ← List.reverse_replicate, ← htake, ← List.reverse_append,
      List.takeWhile_append_dropWhile, List.reverse_reverse]
  · rw [hlist, List.getLast?_reverse]
    intro hhead
    have hnot := List.head?_dropWhile_not (· == '/') address.toList.reverse
    rw [hhead] at hnot
    cases hnot

/-! ### Commands -/

/-- Holds of an operation on the commands of an application, the words for it, and the request that
carries it out. -/
inductive IsSentFor (base token application : String) : Operation → String → Request → Prop
  | clearGlobal :
    IsSentFor base token application .clearGlobal "clear global commands"
      ⟨.put, base ++ "/applications/" ++ application ++ "/commands", some ("Bot " ++ token),
        some (.list [])⟩
  | clearGuild (guild : String) :
    IsSentFor base token application (.clearGuild guild) "clear guild commands"
      ⟨.put, base ++ "/applications/" ++ application ++ "/guilds/" ++ guild ++ "/commands",
        some ("Bot " ++ token), some (.list [])⟩
  | createGlobal (schema : CommandSchema) :
    IsSentFor base token application (.createGlobal schema) "create global command"
      ⟨.post, base ++ "/applications/" ++ application ++ "/commands", some ("Bot " ++ token),
        some schema.toDatum⟩
  | createGuild (guild : String) (schema : CommandSchema) :
    IsSentFor base token application (.createGuild guild schema) "create guild command"
      ⟨.post, base ++ "/applications/" ++ application ++ "/guilds/" ++ guild ++ "/commands",
        some ("Bot " ++ token), some schema.toDatum⟩

/-- The request for the roles of a guild. -/
def rolesRequest (base token guild : String) : Request :=
  ⟨.get, base ++ "/guilds/" ++ guild ++ "/roles", some ("Bot " ++ token), none⟩

section

variable {api : Api} {base : String}

theorem Api.errand_iff (h : IsTrimmed api.base base) {op : Operation} {purpose : String}
    {request : Request} :
    IsSentFor base api.token api.applicationId op purpose request ↔
      api.errand op = ⟨purpose, request⟩ := by
  obtain rfl := h.trimSlashes_eq
  constructor
  · rintro (_ | _ | _ | _) <;> rfl
  · intro herrand
    have herrand := Errand.mk.inj herrand
    cases op <;> obtain ⟨rfl, rfl⟩ := herrand
    · exact .clearGlobal
    · exact .clearGuild _
    · exact .createGlobal _
    · exact .createGuild _ _

theorem Api.roles_eq (h : IsTrimmed api.base base) (guild : String) :
    api.roles guild = ⟨"list guild roles", rolesRequest base api.token guild⟩ := by
  obtain rfl := h.trimSlashes_eq
  rfl

end

/-! ### Answers to interactions -/

/-- Holds of a message that answers an interaction, the words for it, and the request that carries it. -/
inductive IsCarriedBy (base interaction token : String) : Message → String → Request → Prop
  | reply (content : String) :
    IsCarriedBy base interaction token (.reply ⟨content, false⟩) "interaction reply"
      ⟨.post, base ++ "/interactions/" ++ interaction ++ "/" ++ token ++ "/callback", none,
        some (.table [("type", .int 4), ("data", .table [("content", .text content)])])⟩
  | privateReply (content : String) :
    IsCarriedBy base interaction token (.reply ⟨content, true⟩) "interaction reply"
      ⟨.post, base ++ "/interactions/" ++ interaction ++ "/" ++ token ++ "/callback", none,
        some (.table [("type", .int 4),
          ("data", .table [("content", .text content), ("flags", .int 64)])])⟩
  | suggest (found : List Suggestion) :
    IsCarriedBy base interaction token (.suggest found) "autocomplete result"
      ⟨.post, base ++ "/interactions/" ++ interaction ++ "/" ++ token ++ "/callback", none,
        some (.table [("type", .int 8), ("data", .table [("choices", .list (found.map fun s =>
          .table [("name", .text s.name), ("value", .text s.value)]))])])⟩

theorem Callback.errand_of_isCarriedBy {c : Callback} {base : String} (h : IsTrimmed c.base base)
    {message : Message} {purpose : String} {request : Request}
    (hcarried : IsCarriedBy base c.interactionId c.token message purpose request) :
    c.errand message = ⟨purpose, request⟩ := by
  obtain rfl := h.trimSlashes_eq
  cases hcarried <;> rfl

end SlashCommands.Rest
