import PgLlmBatch.Base.Fallible
import PgLlmBatch.Base.UrlSplit
import PgLlmBatch.Identifiers

/-! The gateway's base URL: what is accepted of one, what it is normalized to, and where the URLs
lead that the client builds on it. -/
namespace PgLlmBatch
open Base Url

def validateResourceId (value : Json) (field : String) : Except PyError PyStr :=
  validateIdentifier maxRemoteResourceIdCharacters field value

def loopbackHostnames : List PyStr := [py "localhost"]

def isLoopbackHost (r : UrlRuntime) (hostname : PyStr) : Bool :=
  if r.lower hostname ∈ loopbackHostnames then true
  else match IpAddress.parse hostname with
  | some address => address.isLoopback r.mappedLoopback
  | none => false

def gatewayUrlError (message : String) : PyError := .gateway ("Gateway base_url " ++ message) none []

def inexactUrlError : PyError :=
  gatewayUrlError "must be an exact string URL without whitespace, controls, or backslashes"

def forbiddenUrlChar (c : PyChar) : Bool := c.space || decide (c.val < 32) || c.val == 127

def normalizeGatewayUrl (r : UrlRuntime) (value : Json) : Except PyError PyStr :=
  match value with
  | .str raw =>
      if raw = [] ∨ raw ≠ raw.strip ∨ chr '\\' ∈ raw ∨ raw.any forbiddenUrlChar = true then .error inexactUrlError
      else match urlsplit r raw with
      | none => .error (gatewayUrlError "contains an invalid host or port")
      | some parsed => match parsed.port with
        | none => .error (gatewayUrlError "contains an invalid host or port")
        | some port =>
          let scheme := r.lower parsed.scheme
          let hostname := r.lower ((parsed.hostname r).getD [])
          if ¬(scheme = py "http" ∨ scheme = py "https") ∨ hostname = [] then
            .error (gatewayUrlError "must use http or https with a hostname")
          else if port = some 0 then .error (gatewayUrlError "port must be between 1 and 65535")
          else if parsed.username ≠ none ∨ parsed.password ≠ none then
            .error (gatewayUrlError "must not contain user information")
          else if parsed.query ≠ [] ∨ parsed.fragment ≠ [] then
            .error (gatewayUrlError "must not contain a query or fragment")
          else if scheme = py "http" ∧ isLoopbackHost r hostname = false then
            .error (gatewayUrlError "must use HTTPS except for explicit loopback endpoints")
          else .ok (urlunsplit ⟨scheme,parsed.netloc,parsed.path.rdropWhile (· == slash),[],[]⟩)
  | _ => .error inexactUrlError

structure GatewayCredentials where
  url : Json
  apiKey : PyStr

abbrev CredentialsProvider := PyStr → Except PyError GatewayCredentials

def shown (s : PyStr) : String := String.ofList (s.map (fun c => Char.ofNat c.val))

def configuredUrl (get : PyStr → PyStr → Except PyError Json) (endpointAlias : PyStr) : Except PyError Json := do
  match ← get (py "gateway") endpointAlias with
  | .null => get (py "gateway") (py "base_url")
  | own => return own

def configCredentialsProvider (r : UrlRuntime) (get : PyStr → PyStr → Except PyError Json)
    (requireSecret : PyStr → Except PyError PyStr) : CredentialsProvider := fun endpointAlias => do
  match ← configuredUrl get endpointAlias with
  | .null => throw (.gateway s!"No gateway base_url configured for alias '{shown endpointAlias}'" none [])
  | url =>
      let normalizedUrl ← normalizeGatewayUrl r url
      let apiKey ← requireSecret (py "gateway_api_key." ++ endpointAlias)
      return ⟨.str normalizedUrl,apiKey⟩

def validatedCredentials (r : UrlRuntime) (credentials : CredentialsProvider) : CredentialsProvider := fun endpointAlias => do
  let resolved ← credentials endpointAlias
  let url ← normalizeGatewayUrl r resolved.url
  return ⟨.str url,resolved.apiKey⟩

inductive GatewayRoute where
  | files
  | file (fileId : PyStr)
  | fileContent (fileId : PyStr)
  | batches
  | batch (batchId : PyStr)
  | batchCancel (batchId : PyStr)
  deriving DecidableEq, Repr

namespace GatewayRoute

def url (base : PyStr) : GatewayRoute → PyStr
  | .files => base ++ py "/files"
  | .file fileId => base ++ py "/files/" ++ fileId
  | .fileContent fileId => base ++ py "/files/" ++ fileId ++ py "/content"
  | .batches => base ++ py "/batches"
  | .batch batchId => base ++ py "/batches/" ++ batchId
  | .batchCancel batchId => base ++ py "/batches/" ++ batchId ++ py "/cancel"

def identifiers : GatewayRoute → List PyStr
  | .files | .batches => []
  | .file id | .fileContent id | .batch id | .batchCancel id => [id]

def segments : GatewayRoute → List PyStr
  | .files => [py "files"]
  | .file fileId => [py "files",fileId]
  | .fileContent fileId => [py "files",fileId,py "content"]
  | .batches => [py "batches"]
  | .batch batchId => [py "batches",batchId]
  | .batchCancel batchId => [py "batches",batchId,py "cancel"]

end GatewayRoute

structure AcceptedUrl (r : UrlRuntime) (u : PyStr) (parsed : SplitResult) : Prop where
  nonempty : u ≠ []
  exact_ : ∀ c ∈ u, forbiddenUrlChar c = false ∧ c ≠ chr '\\'
  split : urlsplit r u = some parsed
  port : ∃ port, parsed.port = some port ∧ port ≠ some 0
  scheme : r.lower parsed.scheme = py "http" ∨ r.lower parsed.scheme = py "https"
  host : r.lower ((parsed.hostname r).getD []) ≠ []
  anonymous : parsed.username = none ∧ parsed.password = none
  bare : parsed.query = [] ∧ parsed.fragment = []
  local_ : r.lower parsed.scheme = py "http" → isLoopbackHost r (r.lower ((parsed.hostname r).getD [])) = true

def normalizedUrl (r : UrlRuntime) (parsed : SplitResult) : PyStr :=
  urlunsplit ⟨r.lower parsed.scheme,parsed.netloc,parsed.path.rdropWhile (· == slash),[],[]⟩

theorem stripExact {s : PyStr} (solid : ∀ c ∈ s, c.space = false) : s.strip = s := by
  have front : s.dropWhile PyChar.space = s := by
    cases s with
    | nil => rfl
    | cons c s =>
      have first : ¬c.space = true := by
        rw [solid c List.mem_cons_self]
        exact Bool.false_ne_true
      exact List.dropWhile_cons_of_neg first
  rw [PyStr.strip,front,List.rdropWhile_eq_self_iff]
  intro some_
  rw [solid _ (List.getLast_mem some_)]
  exact Bool.false_ne_true

theorem gatewayUrlAccepted {r : UrlRuntime} {u v : PyStr} : normalizeGatewayUrl r (.str u) = .ok v ↔
    ∃ parsed, AcceptedUrl r u parsed ∧ v = normalizedUrl r parsed := by
  constructor
  · intro accepted
    unfold normalizeGatewayUrl at accepted
    dsimp only at accepted
    split at accepted
    · cases accepted
    rename_i plain
    simp only [not_or,not_not,Bool.not_eq_true] at plain
    obtain ⟨nonempty,_,straight,allowed⟩ := plain
    cases split : urlsplit r u with
    | none =>
      rw [split] at accepted
      cases accepted
    | some parsed =>
      rw [split] at accepted
      dsimp only at accepted
      cases read : parsed.port with
      | none =>
        rw [read] at accepted
        cases accepted
      | some port =>
        rw [read] at accepted
        dsimp only at accepted
        split at accepted
        · cases accepted
        rename_i web
        split at accepted
        · cases accepted
        rename_i positive
        split at accepted
        · cases accepted
        rename_i anonymous
        split at accepted
        · cases accepted
        rename_i bare
        split at accepted
        · cases accepted
        rename_i local_
        simp only [not_or,not_not,ne_eq] at web anonymous bare
        refine ⟨parsed,⟨nonempty,fun c here => ⟨?_,fun same => straight (same ▸ here)⟩,split,⟨port,read,positive⟩,
          not_not.mp (fun other => web.1 (not_or.mp other)),web.2,
          anonymous,bare,fun plain => ?_⟩,(Except.ok.inj accepted).symm⟩
        · exact Bool.eq_false_iff.mpr (fun bad => Bool.eq_false_iff.mp allowed (List.any_eq_true.mpr ⟨c,here,bad⟩))
        · exact not_not.mp (fun other => local_ ⟨plain,Bool.eq_false_iff.mpr other⟩)
  · rintro ⟨parsed,accepted,rfl⟩
    obtain ⟨port,read,positive⟩ := accepted.port
    have solid : ∀ c ∈ u, c.space = false := by
      intro c here
      have allowed := (accepted.exact_ c here).1
      simp only [forbiddenUrlChar,Bool.or_eq_false_iff] at allowed
      exact allowed.1.1
    have plain : ¬(u = [] ∨ u ≠ u.strip ∨ chr '\\' ∈ u ∨ u.any forbiddenUrlChar = true) := by
      rintro (none_ | trimmed | straight | bad)
      · exact accepted.nonempty none_
      · exact trimmed (stripExact solid).symm
      · exact (accepted.exact_ _ straight).2 rfl
      · obtain ⟨c,here,bad⟩ := List.any_eq_true.mp bad
        rw [(accepted.exact_ c here).1] at bad
        cases bad
    unfold normalizeGatewayUrl
    dsimp only
    rw [if_neg plain,accepted.split]
    dsimp only
    rw [read]
    dsimp only
    rw [if_neg (not_or.mpr ⟨not_not.mpr accepted.scheme,accepted.host⟩),if_neg positive,
      if_neg (not_or.mpr ⟨not_not.mpr accepted.anonymous.1,not_not.mpr accepted.anonymous.2⟩),
      if_neg (not_or.mpr ⟨not_not.mpr accepted.bare.1,not_not.mpr accepted.bare.2⟩),
      if_neg (fun both => Bool.eq_false_iff.mp both.2 (accepted.local_ both.1))]
    rfl

section
variable {r : UrlRuntime} {u : PyStr} {parsed : SplitResult}

theorem lowerWeb {scheme : PyStr} (web : Web scheme) : r.lower scheme = scheme := by
  rcases web with rfl | rfl
  · rfl
  · rfl

theorem acceptedLocated (accepted : AcceptedUrl r u parsed) : parsed.netloc ≠ [] := by
  intro none_
  refine accepted.host ?_
  have nowhere : parsed.hostname r = none := by
    unfold SplitResult.hostname SplitResult.hostinfo
    rw [none_]
    rfl
  rw [nowhere]
  rfl

theorem prefixHead {p s : PyStr} (start : p <+: s) : p = [] ∨ p.head? = s.head? := by
  obtain ⟨rest,rfl⟩ := start
  cases p with
  | nil => exact .inl rfl
  | cons c p => exact .inr rfl

theorem trimmedParts (accepted : AcceptedUrl r u parsed) :
    Parts r parsed.netloc (parsed.path.rdropWhile (· == slash)) ∧
      ∀ c ∈ parsed.netloc ++ parsed.path.rdropWhile (· == slash), c ∈ u := by
  obtain ⟨parts,source⟩ := urlsplitParts accepted.split (acceptedLocated accepted)
  have start := List.rdropWhile_prefix (· == slash) parsed.path
  have within {c : PyChar} (here : c ∈ parsed.netloc ++ parsed.path.rdropWhile (· == slash)) :
      c ∈ parsed.netloc ++ parsed.path :=
    List.mem_append.mpr ((List.mem_append.mp here).imp id (fun there => start.subset there))
  refine ⟨⟨fun c here => parts.clean c (within here),parts.bounded,?_,fun c here => parts.plain c (start.subset here),
    parts.accepted⟩,fun c here => source c (within here)⟩
  rcases prefixHead start with none_ | same
  · exact .inl none_
  · rcases parts.rooted with none_ | root
    · rw [none_]
      exact .inl rfl
    · exact .inr (same.trans root)

theorem normalizedText (accepted : AcceptedUrl r u parsed) : normalizedUrl r parsed =
    r.lower parsed.scheme ++ colon::slash::slash::(parsed.netloc ++ parsed.path.rdropWhile (· == slash)) :=
  urlunsplitWeb accepted.scheme (acceptedLocated accepted) (trimmedParts accepted).1.rooted

def normalizedParts (r : UrlRuntime) (parsed : SplitResult) : SplitResult :=
  ⟨r.lower parsed.scheme,parsed.netloc,parsed.path.rdropWhile (· == slash),[],[]⟩

theorem normalizedAgain (accepted : AcceptedUrl r u parsed) :
    AcceptedUrl r (normalizedUrl r parsed) (normalizedParts r parsed) := by
  obtain ⟨parts,source⟩ := trimmedParts accepted
  have text := normalizedText accepted
  have same : r.lower (r.lower parsed.scheme) = r.lower parsed.scheme := lowerWeb accepted.scheme
  have named {scheme : PyStr} (web : Web scheme) : ∀ c ∈ scheme, forbiddenUrlChar c = false ∧ c ≠ chr '\\' := by
    have plain (s : PyStr) (checked : s.all (fun c => !forbiddenUrlChar c && c != chr '\\') = true) :
        ∀ c ∈ s, forbiddenUrlChar c = false ∧ c ≠ chr '\\' := fun c here => by
      simpa using List.all_eq_true.mp checked c here
    rcases web with rfl | rfl
    · exact plain _ rfl
    · exact plain _ rfl
  refine ⟨?_,fun c here => ?_,?_,accepted.port,?_,accepted.host,accepted.anonymous,⟨rfl,rfl⟩,?_⟩
  · rw [text]
    exact List.append_ne_nil_of_right_ne_nil _ (List.cons_ne_nil _ _)
  · rw [text] at here
    rcases List.mem_append.mp here with lead | rest
    · exact named accepted.scheme c lead
    · rcases List.mem_cons.mp rest with rfl | rest
      · exact ⟨rfl,by decide⟩
      rcases List.mem_cons.mp rest with rfl | rest
      · exact ⟨rfl,by decide⟩
      rcases List.mem_cons.mp rest with rfl | rest
      · exact ⟨rfl,by decide⟩
      exact accepted.exact_ c (source c rest)
  · rw [text]
    exact urlsplitBuilt accepted.scheme parts
  · simp only [normalizedParts,same]
    exact accepted.scheme
  · simp only [normalizedParts,same]
    exact accepted.local_

theorem normalizedSame (accepted : AcceptedUrl r u parsed) :
    normalizedUrl r (normalizedParts r parsed) = normalizedUrl r parsed := by
  unfold normalizedUrl normalizedParts
  simp only [show r.lower (r.lower parsed.scheme) = r.lower parsed.scheme from lowerWeb accepted.scheme,
    List.rdropWhile_idempotent]

end

theorem gatewayUrlSettled {r : UrlRuntime} {value : Json} {v : PyStr} (accepted : normalizeGatewayUrl r value = .ok v) :
    normalizeGatewayUrl r (.str v) = .ok v := by
  cases value with
  | str u =>
    obtain ⟨parsed,fine,rfl⟩ := gatewayUrlAccepted.mp accepted
    exact gatewayUrlAccepted.mpr ⟨_,normalizedAgain fine,(normalizedSame fine).symm⟩
  | null => cases accepted
  | bool b => cases accepted
  | int n => cases accepted
  | float f => cases accepted
  | arr items => cases accepted
  | obj members => cases accepted

theorem configuredUnchanged (r : UrlRuntime) (get : PyStr → PyStr → Except PyError Json)
    (requireSecret : PyStr → Except PyError PyStr) {endpointAlias : PyStr} {creds : GatewayCredentials}
    (resolved : configCredentialsProvider r get requireSecret endpointAlias = .ok creds) :
    validatedCredentials r (configCredentialsProvider r get requireSecret) endpointAlias = .ok creds := by
  have settled : ∃ v, creds.url = .str v ∧ normalizeGatewayUrl r (.str v) = .ok v := by
    unfold configCredentialsProvider at resolved
    obtain ⟨url,_,resolved⟩ := Fallible.bindOk.mp resolved
    split at resolved
    · cases resolved
    · obtain ⟨v,normalized,resolved⟩ := Fallible.bindOk.mp resolved
      obtain ⟨apiKey,_,resolved⟩ := Fallible.bindOk.mp resolved
      cases resolved
      exact ⟨v,rfl,gatewayUrlSettled normalized⟩
  obtain ⟨v,own,normalized⟩ := settled
  refine Fallible.bindOk.mpr ⟨creds,resolved,Fallible.bindOk.mpr ⟨v,own ▸ normalized,?_⟩⟩
  exact congrArg Except.ok (by rw [← own])

theorem identifierApart {c : PyChar} (valid : identifierChar c = true) :
    removed c = false ∧ (c ≠ question ∧ c ≠ hash) ∧ c ≠ slash := by
  have other (d : PyChar) (bad : identifierChar d = false) : c ≠ d := fun same => by
    rw [same,bad] at valid
    cases valid
  refine ⟨?_,⟨other question rfl,other hash rfl⟩,other slash rfl⟩
  have tab := other ⟨9,by decide⟩ rfl
  have feed := other ⟨10,by decide⟩ rfl
  have back := other ⟨13,by decide⟩ rfl
  simp only [ne_eq,Fin.ext_iff] at tab feed back
  simp only [removed,Bool.or_eq_false_iff,beq_eq_false_iff_ne,ne_eq]
  exact ⟨⟨tab,feed⟩,back⟩

structure PlainSegment (s : PyStr) : Prop where
  chars : ∀ c ∈ s, removed c = false ∧ (c ≠ question ∧ c ≠ hash) ∧ c ≠ slash
  named : s ≠ [] ∧ s ≠ py "." ∧ s ≠ py ".."

theorem identifierSegment {limit : Nat} {s : PyStr} (valid : identifierPattern limit s = true) : PlainSegment s := by
  cases s with
  | nil => cases valid
  | cons c s =>
    simp only [identifierPattern,Bool.and_eq_true] at valid
    obtain ⟨⟨lead,rest⟩,-⟩ := valid
    refine ⟨fun d here => ?_,List.cons_ne_nil _ _,fun same => ?_,fun same => ?_⟩
    · rcases List.mem_cons.mp here with rfl | there
      · exact identifierApart (by simp [identifierChar,lead])
      · exact identifierApart (List.all_eq_true.mp rest d there)
    · rw [(List.cons.inj same).1] at lead
      cases lead
    · rw [(List.cons.inj same).1] at lead
      cases lead

def fixedSegments : List PyStr := [py "files",py "content",py "batches",py "cancel"]

theorem segmentCases (route : GatewayRoute) : ∀ s ∈ route.segments, s ∈ fixedSegments ∨ s ∈ route.identifiers := by
  cases route with
  | files => simp [GatewayRoute.segments,fixedSegments]
  | file id => simp [GatewayRoute.segments,GatewayRoute.identifiers,fixedSegments]
  | fileContent id => simp [GatewayRoute.segments,GatewayRoute.identifiers,fixedSegments]
  | batches => simp [GatewayRoute.segments,fixedSegments]
  | batch id => simp [GatewayRoute.segments,GatewayRoute.identifiers,fixedSegments]
  | batchCancel id => simp [GatewayRoute.segments,GatewayRoute.identifiers,fixedSegments]

theorem routeSegments (route : GatewayRoute)
    (valid : ∀ id ∈ route.identifiers, ∃ value field, validateResourceId value field = .ok id) :
    ∀ s ∈ route.segments, PlainSegment s := by
  intro s here
  rcases segmentCases route s here with fixed | own
  · have named : fixedSegments.all (identifierPattern 256) = true := rfl
    exact identifierSegment (List.all_eq_true.mp named s fixed)
  · obtain ⟨value,field,accepted⟩ := valid s own
    exact identifierSegment (validIdentifier accepted).2

def joinedSegments (segments : List PyStr) : PyStr := segments.flatMap (slash :: ·)

theorem routeUrl (base : PyStr) (route : GatewayRoute) : route.url base = base ++ joinedSegments route.segments := by
  cases route with
  | files => rfl
  | batches => rfl
  | file id =>
    rw [GatewayRoute.url,List.append_assoc]
    simp only [joinedSegments,GatewayRoute.segments,List.flatMap_cons,List.flatMap_nil,List.append_nil]
    rfl
  | batch id =>
    rw [GatewayRoute.url,List.append_assoc]
    simp only [joinedSegments,GatewayRoute.segments,List.flatMap_cons,List.flatMap_nil,List.append_nil]
    rfl
  | fileContent id =>
    rw [GatewayRoute.url,List.append_assoc,List.append_assoc]
    simp only [joinedSegments,GatewayRoute.segments,List.flatMap_cons,List.flatMap_nil,List.append_nil]
    rfl
  | batchCancel id =>
    rw [GatewayRoute.url,List.append_assoc,List.append_assoc]
    simp only [joinedSegments,GatewayRoute.segments,List.flatMap_cons,List.flatMap_nil,List.append_nil]
    rfl

theorem segmentsParts {r : UrlRuntime} {netloc path : PyStr} (parts : Parts r netloc path) {segments : List PyStr}
    (plain : ∀ s ∈ segments, PlainSegment s) : Parts r netloc (path ++ joinedSegments segments) := by
  have chars : ∀ c ∈ joinedSegments segments, removed c = false ∧ c ≠ question ∧ c ≠ hash := by
    intro c here
    obtain ⟨s,listed,here⟩ := List.mem_flatMap.mp here
    rcases List.mem_cons.mp here with rfl | there
    · exact ⟨rfl,by decide,by decide⟩
    · obtain ⟨kept,apart,-⟩ := (plain s listed).chars c there
      exact ⟨kept,apart⟩
  refine ⟨fun c here => ?_,parts.bounded,?_,fun c here => ?_,parts.accepted⟩
  · rw [← List.append_assoc] at here
    rcases List.mem_append.mp here with old | new
    · exact parts.clean c old
    · exact (chars c new).1
  · rcases parts.rooted with rfl | root
    · cases segments with
      | nil => exact .inl rfl
      | cons s segments => exact .inr rfl
    · obtain ⟨tail,rfl⟩ := List.head?_eq_some_iff.mp root
      exact .inr rfl
  · rcases List.mem_append.mp here with old | new
    · exact parts.plain c old
    · exact (chars c new).2

theorem gatewayUrlConfined (r : UrlRuntime) {u v : PyStr} (accepted : normalizeGatewayUrl r (.str u) = .ok v) :
    normalizeGatewayUrl r (.str v) = .ok v ∧
    ∃ given own, urlsplit r u = some given ∧ urlsplit r v = some own ∧
      own.hostname r = given.hostname r ∧ own.port = given.port ∧ (∃ port, own.port = some port) ∧
      (own.scheme = py "https" ∨ own.scheme = py "http" ∧ isLoopbackHost r (r.lower ((own.hostname r).getD [])) = true) ∧
      own.username = none ∧ own.password = none ∧ own.query = [] ∧ own.fragment = [] ∧
      ∀ route : GatewayRoute, (∀ id ∈ route.identifiers, ∃ value field, validateResourceId value field = .ok id) →
        urlsplit r (route.url v) = some ⟨own.scheme,own.netloc,own.path ++ joinedSegments route.segments,[],[]⟩ ∧
        ∀ s ∈ route.segments, PlainSegment s := by
  obtain ⟨parsed,fine,rfl⟩ := gatewayUrlAccepted.mp accepted
  have again := normalizedAgain fine
  refine ⟨gatewayUrlSettled accepted,parsed,normalizedParts r parsed,fine.split,again.split,
    rfl,rfl,?_,?_,again.anonymous.1,again.anonymous.2,rfl,rfl,fun route valid => ?_⟩
  · obtain ⟨port,read,-⟩ := again.port
    exact ⟨port,read⟩
  · rcases fine.scheme with plain | secure
    · exact .inr ⟨plain,fine.local_ plain⟩
    · exact .inl secure
  · have segments := routeSegments route valid
    refine ⟨?_,segments⟩
    rw [routeUrl,normalizedText fine,List.append_assoc,List.cons_append,List.cons_append,List.cons_append,List.append_assoc]
    exact urlsplitBuilt fine.scheme (segmentsParts (trimmedParts fine).1 segments)

def plainUrls : UrlRuntime := ⟨.netloc,true,List.map PyChar.lower,id⟩

theorem portedGatewayConfined :
    normalizeGatewayUrl plainUrls (.str (py "https://Gateway:8443/v1")) = .ok (py "https://Gateway:8443/v1") ∧
    ∃ own, urlsplit plainUrls (py "https://Gateway:8443/v1") = some own ∧ (∃ port, own.port = some port) ∧
      own.username = none ∧ own.password = none ∧
      urlsplit plainUrls ((GatewayRoute.batchCancel (py "batch-1")).url (py "https://Gateway:8443/v1")) =
        some ⟨own.scheme,own.netloc,own.path ++ joinedSegments [py "batches",py "batch-1",py "cancel"],[],[]⟩ := by
  obtain ⟨again,-,own,-,split_,-,-,port,-,username,password,-,-,routes⟩ := gatewayUrlConfined plainUrls
    (rfl : normalizeGatewayUrl plainUrls (.str (py "HTTPS://Gateway:8443/v1//?")) = .ok (py "https://Gateway:8443/v1"))
  refine ⟨again,own,split_,port,username,password,(routes (.batchCancel (py "batch-1")) (fun id here => ?_)).1⟩
  cases List.mem_singleton.mp here
  exact ⟨.str (py "batch-1"),"batch_id",rfl⟩

end PgLlmBatch
