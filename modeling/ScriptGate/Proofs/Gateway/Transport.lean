import ScriptGate.Gateway.Http
import ScriptGate.Proofs.Gateway.Outcome
import ScriptGate.Proofs.Json.Printed

/-! A check over HTTP and the check itself.

A document posted for a profile is handed to the gateway, and a caller that reads the body
of the response gets back what the gateway said (`Response.Tells`). That holds up to the
configured size (`handle_check_iff`): the server refuses a longer body on its own, in words
of its own and without a trace in the registry, although the gateway would have refused it
too, or would have said that there is no such profile. -/
namespace ScriptGate.Http

open Metrics (Duration Registry Trace)

/-! ### What a caller reads -/

def readText? : Json → Option (Option String)
  | .str text => some (some text)
  | .null => some none
  | _ => none

/-- What a check found, as the document tells it. -/
def readFindings : Json → Option CheckResponse
  | .obj [("allowed", .bool allowed), ("rejection", rejection), ("rejected_kind", kind),
      ("nodes_visited", .num visited)] => do
    return ⟨allowed, ← readText? rejection, ← readText? kind, ← visited.toNat?⟩
  | _ => none

/-- The code and the text of what was in the way of a check. -/
def readComplaint : Json → Option (String × String)
  | .obj [("code", .str code), ("msg", .str message)] => some (code, message)
  | _ => none

/-- The response tells how the check went: its body is the text of a document that says what
the check found, or the code and the text of what was in its way. A caller that reads the
text gets the document back, if the count in it fits a machine word. -/
def Response.Tells (r : Response) : Except Error CheckResponse → Prop
  | .ok c => r.status = 200 ∧ r.contentType = some "application/json" ∧
      ∃ v : Json, r.body = v.render ∧ readFindings v = some c ∧
        (c.nodesVisited ≤ Numeral.wordMax → Json.ofText? Json.maxNesting r.body = some v)
  | .error e => r.status = statusOf e.code ∧ r.contentType = some "application/json" ∧
      ∃ v : Json, r.body = v.render ∧ readComplaint v = some (e.code.text, e.message) ∧
        Json.ofText? Json.maxNesting r.body = some v

theorem readText?_text? (t : Option String) : readText? (text? t) = some t := by
  cases t <;> rfl

theorem readFindings_findings (c : CheckResponse) : readFindings (findings c) = some c := by
  simp [findings, readFindings, readText?_text?, Numeral.toNat?_ofNat]

theorem countsOnly_text? (t : Option String) : (text? t).CountsOnly := by
  cases t with
  | none => exact .null
  | some text => exact .str text

theorem nesting_text? (t : Option String) : (text? t).nesting = 0 := by
  cases t <;> rfl

theorem ofText?_findings {c : CheckResponse} (h : c.nodesVisited ≤ Numeral.wordMax) :
    Json.ofText? Json.maxNesting (findings c).render = some (findings c) := by
  have hcounts : (findings c).CountsOnly := by
    refine .obj ?_
    simp only [List.forall_mem_cons]
    exact ⟨.bool _, countsOnly_text? _, countsOnly_text? _, .num h, nofun⟩
  have hnesting : (findings c).nesting ≤ Json.maxNesting := by
    simp [findings, Json.nesting, Json.nestingMembers, nesting_text?, Json.maxNesting]
  rw [Json.ofText?_render hcounts, if_pos hnesting]

theorem ofText?_complaint (e : Error) :
    Json.ofText? Json.maxNesting (complaint e).render = some (complaint e) := by
  have hcounts : (complaint e).CountsOnly := by
    refine .obj ?_
    simp only [List.forall_mem_cons]
    exact ⟨.str _, .str _, nofun⟩
  have hnesting : (complaint e).nesting ≤ Json.maxNesting := by
    simp [complaint, Json.nesting, Json.nestingMembers, Json.maxNesting]
  rw [Json.ofText?_render hcounts, if_pos hnesting]

theorem answer_tells (outcome : Except Error CheckResponse) : (answer outcome).Tells outcome := by
  cases outcome with
  | ok c => exact ⟨rfl, rfl, findings c, rfl, readFindings_findings c, ofText?_findings⟩
  | error e => exact ⟨rfl, rfl, complaint e, rfl, rfl, ofText?_complaint e⟩

/-- Plain text tells nothing of a check. -/
theorem not_tells_plain (status : Nat) (text : String) (outcome : Except Error CheckResponse) :
    ¬ (plain status text).Tells outcome := by
  have htype : (plain status text).contentType ≠ some "application/json" := by
    simp [plain]
  cases outcome <;> exact fun h => htype h.2.1

theorem statusOf_ne_ok (code : ErrorCode) : statusOf code ≠ 200 := by
  cases code <;> decide

/-! ### The route -/

/-- The request posts a document for the profile that this segment of the path names. -/
structure Request.Posts (r : Request) (segment : List Char) : Prop where
  method : r.method = "POST"
  path : path r.target = checkPath ++ segment
  nonempty : segment ≠ []
  noSlash : '/' ∉ segment

theorem route_check {segment : List Char} (hne : segment ≠ []) (hslash : '/' ∉ segment) :
    route (checkPath ++ segment) = some (.check segment) := by
  -- The other routes differ from this one in their second character.
  have hother (l : List Char) (h : l[1]? ≠ some 'v') : checkPath ++ segment ≠ l := by
    intro he
    apply h
    rw [← he]
    rfl
  have hstart : checkPath.isPrefixOf (checkPath ++ segment) = true :=
    List.isPrefixOf_iff_prefix.mpr (List.prefix_append _ _)
  unfold route
  rw [if_neg (hother _ (by decide)), if_neg (hother _ (by decide)), if_neg (hother _ (by decide)),
    if_pos hstart, List.drop_left]
  simp [hne, hslash]

section Posted
variable {r : Request} {segment : List Char} {id : String} (hposts : r.Posts segment)
  (hid : profileId segment = some id) (g : Gateway) (elapsed : Duration)
include hposts

theorem handle_of_posts : handle g elapsed r = check g elapsed segment r.body := by
  rw [handle, hposts.path, route_check hposts.nonempty hposts.noSlash]
  exact if_pos hposts.method

include hid

/-- A body of the size allowed is handed to the gateway. -/
theorem handle_of_size_le (hsize : r.body.size ≤ g.config.gateway.maxBodyBytes) :
    handle g elapsed r =
      (answer (g.check elapsed id r.body).1, (g.check elapsed id r.body).2) := by
  rw [handle_of_posts hposts, check, hid]
  exact if_neg (Nat.not_lt.mpr hsize)

/-- A longer one is refused before, whatever the profile. -/
theorem handle_of_lt_size (hsize : g.config.gateway.maxBodyBytes < r.body.size) :
    handle g elapsed r =
      (plain 413 "Failed to buffer the request body: length limit exceeded", g) := by
  rw [handle_of_posts hposts, check, hid]
  exact if_pos hsize

end Posted

/-! ### Counting -/

/-- A check that fails is one request error, and one that does not is none. -/
theorem requestErrors_check (g : Gateway) (elapsed : Duration) (id : String) (body : ByteArray) :
    (∃ c, (g.check elapsed id body).1 = .ok c ∧
      (g.check elapsed id body).2.registry.requestErrors = g.registry.requestErrors) ∨
    ∃ e, (g.check elapsed id body).1 = .error e ∧
      (g.check elapsed id body).2.registry = g.registry.record
        (.requestError (if (g.gate? id).isSome then id else "-") e.code.text) := by
  have hleaves := g.judge_leaves id body elapsed
  have hanswer : (g.check elapsed id body).1 =
      (g.judge id body).map CheckResponse.ofEvaluation := rfl
  have hregistry : (g.check elapsed id body).2.registry =
      (Gateway.traces id elapsed (g.judge id body)).foldl Registry.record g.registry := rfl
  rw [hanswer, hregistry]
  generalize g.judge id body = outcome at hleaves
  generalize Gateway.traces id elapsed outcome = ts at hleaves
  cases hleaves with
  | unknown hgate => exact .inr ⟨_, rfl, by rw [hgate]; rfl⟩
  | failed e hgate => exact .inr ⟨e, rfl, by rw [hgate]; rfl⟩
  | allowed n | rejected r n => exact .inl ⟨_, rfl, rfl⟩

/-- **A document that is posted is answered and counted as the check of it is, exactly if it
is no longer than the server allows.** Up to that size a response other than 200 stands
for one request error, and 200 for none. A longer document gets a plain 413, even for a
profile there is not, and nothing is counted. -/
theorem handle_check_iff {r : Request} {segment : List Char} {id : String}
    (hposts : r.Posts segment) (hid : profileId segment = some id) (g : Gateway)
    (elapsed : Duration) :
    let response := (handle g elapsed r).1
    let after := (handle g elapsed r).2
    let checked := g.check elapsed id r.body
    ((response.Tells checked.1 ∧ after = checked.2) ↔
      r.body.size ≤ g.config.gateway.maxBodyBytes) ∧
    (r.body.size ≤ g.config.gateway.maxBodyBytes →
      (response.status = 200 → after.registry.requestErrors = g.registry.requestErrors) ∧
      (response.status ≠ 200 → ∃ e, checked.1 = .error e ∧ after.registry = g.registry.record
        (.requestError (if (g.gate? id).isSome then id else "-") e.code.text))) ∧
    (g.config.gateway.maxBodyBytes < r.body.size →
      response = plain 413 "Failed to buffer the request body: length limit exceeded" ∧
        after = g) := by
  intro response after checked
  by_cases hsize : r.body.size ≤ g.config.gateway.maxBodyBytes
  · have hhandle := handle_of_size_le hposts hid g elapsed hsize
    have hresponse : response = answer checked.1 := congrArg Prod.fst hhandle
    have hafter : after = checked.2 := congrArg Prod.snd hhandle
    have htells : response.Tells checked.1 := hresponse ▸ answer_tells checked.1
    refine ⟨iff_of_true ⟨htells, hafter⟩ hsize, fun _ => ?_, fun hlarge => by omega⟩
    rw [hafter]
    rcases requestErrors_check g elapsed id r.body with ⟨c, hc, hsame⟩ | ⟨e, he, hcounted⟩
    · have hstatus : response.status = 200 := by
        rw [hresponse, hc]
        rfl
      exact ⟨fun _ => hsame, fun hne => absurd hstatus hne⟩
    · have hstatus : response.status = statusOf e.code := by
        rw [hresponse, he]
        rfl
      exact ⟨fun hok => absurd (hstatus.symm.trans hok) (statusOf_ne_ok e.code),
        fun _ => ⟨e, he, hcounted⟩⟩
  · have hlarge : g.config.gateway.maxBodyBytes < r.body.size := Nat.not_le.mp hsize
    have hhandle := handle_of_lt_size hposts hid g elapsed hlarge
    have hresponse : response = _ := congrArg Prod.fst hhandle
    refine ⟨iff_of_false (fun h => ?_) hsize, fun h => absurd h hsize, fun _ =>
      ⟨hresponse, congrArg Prod.snd hhandle⟩⟩
    exact not_tells_plain _ _ _ (hresponse ▸ h.1)

/-- A profile whose id cannot stand in a path as it is. -/
def slashConfig : Config :=
  { version := 1, gateway := { maxBodyBytes := 1024 }, profiles := [{ id := "a/b" }] }

/-- A body posted for that profile. -/
def slashRequest (body : ByteArray) : Request := ⟨"POST", "/v1/check/a%2Fb?dry", body⟩

theorem slashRequest_posts (body : ByteArray) : (slashRequest body).Posts "a%2Fb".toList := by
  have hpath : path "/v1/check/a%2Fb?dry" = checkPath ++ "a%2Fb".toList := by decide +kernel
  exact ⟨rfl, hpath, by decide, by decide⟩

theorem profileId_slash : profileId "a%2Fb".toList = some "a/b" := by decide +kernel

/-- What the check of a tree with a seed name in a list finds. -/
def seedFindings : CheckResponse := ⟨false, some "Not allowed to use 'eval'", some "identifier", 3⟩

/-- That tree is answered 200 and not counted as an error, and its caller reads the findings.
An object that is no tree is answered 400 and counted. -/
theorem handle_check_iff_documents :
    let tree := (Node.args [.identifier "f", .identifier "eval"]).encode.render.toUTF8
    let noTree := (Json.obj []).render.toUTF8
    (slashRequest tree).Posts "a%2Fb".toList ∧ (slashRequest noTree).Posts "a%2Fb".toList ∧
    profileId "a%2Fb".toList = some "a/b" ∧
    ∃ g, Gateway.ofConfig slashConfig = .ok g ∧
      (let handled := handle g ⟨0, 0⟩ (slashRequest tree)
      let checked := g.check ⟨0, 0⟩ "a/b" tree
      handled.1.Tells checked.1 ∧ handled.1.status = 200 ∧ checked.1 = .ok seedFindings ∧
      (Json.ofText? Json.maxNesting handled.1.body).bind readFindings = some seedFindings ∧
      handled.2.registry.requestErrors = g.registry.requestErrors) ∧
      let handled := handle g ⟨0, 0⟩ (slashRequest noTree)
      handled.1.Tells (g.check ⟨0, 0⟩ "a/b" noTree).1 ∧ handled.1.status = 400 ∧
      handled.2.registry.requestErrors.get [("profile", "a/b"), ("code", "MALFORMED_TREE")] = 1 := by
  intro tree noTree
  have hposts := slashRequest_posts tree
  have hposts' := slashRequest_posts noTree
  obtain ⟨g, hg, hsize, hchecked, hsize', hstatus', hcount⟩ :
      ∃ g, Gateway.ofConfig slashConfig = .ok g ∧
        (slashRequest tree).body.size ≤ g.config.gateway.maxBodyBytes ∧
        (g.check ⟨0, 0⟩ "a/b" tree).1 = .ok seedFindings ∧
        (slashRequest noTree).body.size ≤ g.config.gateway.maxBodyBytes ∧
        (handle g ⟨0, 0⟩ (slashRequest noTree)).1.status = 400 ∧
        (handle g ⟨0, 0⟩ (slashRequest noTree)).2.registry.requestErrors.get
          [("profile", "a/b"), ("code", "MALFORMED_TREE")] = 1 :=
    ⟨_, rfl, by decide +kernel, by decide +kernel, by decide +kernel, by decide +kernel,
      by decide +kernel⟩
  obtain ⟨htells, herrors, -⟩ := handle_check_iff hposts profileId_slash g ⟨0, 0⟩
  obtain ⟨htells', -, -⟩ := handle_check_iff hposts' profileId_slash g ⟨0, 0⟩
  have htold : (handle g ⟨0, 0⟩ (slashRequest tree)).1.Tells (g.check ⟨0, 0⟩ "a/b" tree).1 :=
    (htells.mpr hsize).1
  obtain ⟨hstatus, -, v, -, hfindings, hback⟩ :
      (handle g ⟨0, 0⟩ (slashRequest tree)).1.Tells (.ok seedFindings) := hchecked ▸ htold
  have hread : (Json.ofText? Json.maxNesting
      (handle g ⟨0, 0⟩ (slashRequest tree)).1.body).bind readFindings = some seedFindings := by
    rw [hback (by decide), Option.bind_some, hfindings]
  exact ⟨hposts, hposts', profileId_slash, g, hg,
    ⟨htold, hstatus, hchecked, hread, (herrors hsize).1 hstatus⟩,
    (htells'.mpr hsize').1, hstatus', hcount⟩

/-- One byte more than allowed. The check counts it as a payload too large and says so; over
HTTP that is neither said nor counted. -/
theorem handle_not_tells_large :
    let r := slashRequest ⟨Array.replicate 1025 0x20⟩
    r.Posts "a%2Fb".toList ∧ profileId "a%2Fb".toList = some "a/b" ∧
    ∃ g, Gateway.ofConfig slashConfig = .ok g ∧
      let checked := g.check ⟨0, 0⟩ "a/b" r.body
      let handled := handle g ⟨0, 0⟩ r
      checked.1 = .error .payloadTooLarge ∧ ¬ handled.1.Tells checked.1 ∧
      checked.2.registry.requestErrors.get
        [("profile", "a/b"), ("code", "PAYLOAD_TOO_LARGE")] = 1 ∧
      handled.2.registry.requestErrors.get
        [("profile", "a/b"), ("code", "PAYLOAD_TOO_LARGE")] = 0 := by
  intro r
  have hposts : r.Posts "a%2Fb".toList := slashRequest_posts _
  obtain ⟨g, hg, hsize, hchecked, hcounted, hempty⟩ : ∃ g, Gateway.ofConfig slashConfig = .ok g ∧
      g.config.gateway.maxBodyBytes < r.body.size ∧
      (g.check ⟨0, 0⟩ "a/b" r.body).1 = .error .payloadTooLarge ∧
      (g.check ⟨0, 0⟩ "a/b" r.body).2.registry.requestErrors.get
        [("profile", "a/b"), ("code", "PAYLOAD_TOO_LARGE")] = 1 ∧
      g.registry = {} :=
    ⟨_, rfl, by decide +kernel, by decide +kernel, by decide +kernel, rfl⟩
  refine ⟨hposts, profileId_slash, g, hg, hchecked, ?_, hcounted, ?_⟩
  · rw [handle_of_lt_size hposts profileId_slash g ⟨0, 0⟩ hsize]
    exact not_tells_plain _ _ _
  · rw [handle_of_lt_size hposts profileId_slash g ⟨0, 0⟩ hsize, hempty]
    rfl

end ScriptGate.Http
