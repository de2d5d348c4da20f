import PgLlmBatch.Base.IpAddress
import PgLlmBatch.Base.PyNumber

/-! `urllib.parse`: `urlsplit`, the parts of a network location, and `urlunsplit`. `none` is a
`ValueError`. -/
namespace PgLlmBatch.Base

-- What is checked of a bracketed host: nothing, the host, or the whole network location.
inductive BracketCheck where | unchecked | host | netloc
  deriving DecidableEq, Repr

-- Where Python versions differ, and the tables of their Unicode versions.
structure UrlRuntime where
  bracketCheck : BracketCheck
  mappedLoopback : Bool
  lowerUnicode : PyStr → PyStr
  nfkc : PyStr → PyStr

def PyChar.ascii (c : PyChar) : Bool := decide (c.val < 128)

def UrlRuntime.lower (r : UrlRuntime) (s : PyStr) : PyStr :=
  if s.all PyChar.ascii then s.map PyChar.lower else r.lowerUnicode s

namespace Url

def colon : PyChar := chr ':'
def slash : PyChar := chr '/'
def question : PyChar := chr '?'
def hash : PyChar := chr '#'
def at_ : PyChar := chr '@'
def openBracket : PyChar := chr '['
def closeBracket : PyChar := chr ']'

-- `s.partition(c)`, the separator as whether it was found.
def partition (c : PyChar) (s : PyStr) : PyStr × Bool × PyStr :=
  (s.takeWhile (· != c),s.contains c,(s.dropWhile (· != c)).tail)

def rpartition (c : PyChar) (s : PyStr) : PyStr × Bool × PyStr :=
  let (back,found,front) := partition c s.reverse
  if found then (front.reverse,true,back.reverse) else ([],false,s)

structure SplitResult where
  scheme : PyStr
  netloc : PyStr
  path : PyStr
  query : PyStr
  fragment : PyStr
  deriving DecidableEq, Repr

def controlOrSpace (c : PyChar) : Bool := decide (c.val ≤ 0x20)

-- `_UNSAFE_URL_BYTES_TO_REMOVE`.
def removed (c : PyChar) : Bool := c.val == 0x09 || c.val == 0x0A || c.val == 0x0D

def letter (c : PyChar) : Bool := c.alphanumeric && !c.digit
def schemeChar (c : PyChar) : Bool := c.alphanumeric || c == chr '+' || c == chr '-' || c == chr '.'

def splitScheme (url : PyStr) : PyStr × PyStr :=
  match partition colon url with
  | (c::front,true,rest) =>
      if letter c && (c::front).all schemeChar then ((c::front).map PyChar.lower,rest) else ([],url)
  | _ => ([],url)

def delimiter (c : PyChar) : Bool := c == slash || c == question || c == hash

def splitNetloc : PyStr → PyStr × PyStr
  | a::b::rest =>
      if a = slash ∧ b = slash then (rest.takeWhile (!delimiter ·),rest.dropWhile (!delimiter ·)) else ([],a::b::rest)
  | url => ([],url)

def bracketedHostAccepted (host : PyStr) : Bool :=
  match host with
  | [] => false
  | c::rest =>
      if c = chr 'v' then
        let (digits,tail) := rest.span (fun c => (IpAddress.hexDigit c).isSome)
        decide (digits ≠ []) && decide (tail.head? = some (chr '.')) && decide (2 ≤ tail.length)
      else match IpAddress.parse host with
        | some (.v6 _) => true
        | _ => false

def bracketedNetlocAccepted (netloc : PyStr) : Bool :=
  let (before,opened,bracketed) := partition openBracket (rpartition at_ netloc).2.2
  if opened then
    let (host,_,port) := partition closeBracket bracketed
    decide (before = []) && (decide (port = []) || decide (port.head? = some colon)) && bracketedHostAccepted host
  else bracketedHostAccepted (partition colon (rpartition at_ netloc).2.2).1

def bracketsAccepted (r : UrlRuntime) (netloc : PyStr) : Bool :=
  match netloc.contains openBracket,netloc.contains closeBracket with
  | false,false => true
  | true,true => match r.bracketCheck with
      | .unchecked => true
      | .host => bracketedHostAccepted (partition closeBracket (partition openBracket netloc).2.2).1
      | .netloc => bracketedNetlocAccepted netloc
  | _,_ => false

-- `_checknetloc`: no delimiter may come out of the NFKC normalisation.
def checkNetloc (r : UrlRuntime) (netloc : PyStr) : Bool :=
  netloc.all PyChar.ascii ||
    let plain := netloc.filter (fun c => !(c == at_ || c == colon || c == hash || c == question))
    let normalized := r.nfkc plain
    decide (plain = normalized) || !normalized.any (fun c => delimiter c || c == at_ || c == colon)

def urlsplit (r : UrlRuntime) (url : PyStr) : Option SplitResult :=
  let url := (url.dropWhile controlOrSpace).filter (fun c => !removed c)
  let (scheme,url) := splitScheme url
  let (netloc,url) := splitNetloc url
  let (url,_,fragment) := partition hash url
  let (path,_,query) := partition question url
  if bracketsAccepted r netloc && checkNetloc r netloc then some ⟨scheme,netloc,path,query,fragment⟩ else none

namespace SplitResult

def userinfo (s : SplitResult) : Option PyStr × Option PyStr :=
  let (userinfo,haveInfo,_) := rpartition at_ s.netloc
  if haveInfo then
    let (username,havePassword,password) := partition colon userinfo
    (some username,if havePassword then some password else none)
  else (none,none)

def username (s : SplitResult) : Option PyStr := s.userinfo.1
def password (s : SplitResult) : Option PyStr := s.userinfo.2

def hostinfo (s : SplitResult) : PyStr × PyStr :=
  let (_,_,hostinfo) := rpartition at_ s.netloc
  let (_,opened,bracketed) := partition openBracket hostinfo
  if opened then
    let (hostname,_,port) := partition closeBracket bracketed
    (hostname,(partition colon port).2.2)
  else
    let (hostname,_,port) := partition colon hostinfo
    (hostname,port)

def hostname (r : UrlRuntime) (s : SplitResult) : Option PyStr :=
  if s.hostinfo.1 = [] then none
  else
    let (host,percent,zone) := partition (chr '%') s.hostinfo.1
    some (r.lower host ++ (if percent then [chr '%'] else []) ++ zone)

def port (s : SplitResult) : Option (Option Nat) :=
  if s.hostinfo.2 = [] then some none
  else if s.hostinfo.2.all PyChar.digit = false then none
  else if 65535 < IpAddress.decimalValue s.hostinfo.2 then none
  else some (some (IpAddress.decimalValue s.hostinfo.2))

end SplitResult

def usesNetloc : List PyStr :=
  ["","ftp","http","gopher","nntp","telnet","imap","wais","file","mms","https","shttp","snews","prospero","rtsp","rtsps",
    "rtspu","rsync","svn","svn+ssh","sftp","nfs","git","git+ssh","ws","wss"].map py

def urlunsplit (s : SplitResult) : PyStr :=
  let url := if s.netloc ≠ [] ∨ (s.scheme ≠ [] ∧ s.scheme ∈ usesNetloc) ∨ s.path.take 2 = [slash,slash] then
      [slash,slash] ++ s.netloc ++ (if s.path ≠ [] ∧ s.path.head? ≠ some slash then slash::s.path else s.path)
    else s.path
  let url := if s.scheme ≠ [] then s.scheme ++ colon::url else url
  let url := if s.query ≠ [] then url ++ question::s.query else url
  if s.fragment ≠ [] then url ++ hash::s.fragment else url

theorem partitionAbsent {c : PyChar} {s : PyStr} (apart : c ∉ s) : partition c s = (s,false,[]) := by
  have all : ∀ x ∈ s, (x != c) = true := fun x here => bne_iff_ne.mpr (fun same => apart (same ▸ here))
  unfold partition
  rw [List.takeWhile_eq_self_iff.mpr all,List.dropWhile_eq_nil_iff.mpr all]
  simp [apart]

theorem partitionBefore {c d : PyChar} {s : PyStr} (here : d ∈ (partition c s).1) : d ∈ s ∧ d ≠ c := by
  have taken : d ∈ s.takeWhile (· != c) := here
  exact ⟨(List.takeWhile_prefix _).subset taken,by simpa using List.mem_takeWhile_imp taken⟩

theorem partitionHead (c : PyChar) (s : PyStr) : (partition c s).1 = [] ∨ (partition c s).1.head? = s.head? := by
  cases s with
  | nil => exact .inl rfl
  | cons d s =>
    unfold partition
    rw [List.takeWhile_cons]
    split
    · exact .inr rfl
    · exact .inl rfl

-- The scheme of a URL that a web client calls.
def Web (scheme : PyStr) : Prop := scheme = py "http" ∨ scheme = py "https"

structure Parts (r : UrlRuntime) (netloc path : PyStr) : Prop where
  clean : ∀ c ∈ netloc ++ path, removed c = false
  bounded : ∀ c ∈ netloc, delimiter c = false
  rooted : path = [] ∨ path.head? = some slash
  plain : ∀ c ∈ path, c ≠ question ∧ c ≠ hash
  accepted : (bracketsAccepted r netloc && checkNetloc r netloc) = true

variable {r : UrlRuntime} {scheme netloc path : PyStr}

theorem webScheme (web : Web scheme) (rest : PyStr) : splitScheme (scheme ++ colon::rest) = (scheme,rest) := by
  rcases web with rfl | rfl
  · rfl
  · rfl

theorem netlocBuilt (bounded : ∀ c ∈ netloc, delimiter c = false) (rooted : path = [] ∨ path.head? = some slash) :
    splitNetloc (slash::slash::(netloc ++ path)) = (netloc,path) := by
  have lead : ∀ c ∈ netloc, (!delimiter c) = true := fun c here => by rw [bounded c here]; rfl
  have stops : path.takeWhile (!delimiter ·) = [] ∧ path.dropWhile (!delimiter ·) = path := by
    rcases rooted with rfl | root
    · exact ⟨rfl,rfl⟩
    · obtain ⟨tail,rfl⟩ := List.head?_eq_some_iff.mp root
      exact ⟨rfl,rfl⟩
  unfold splitNetloc
  dsimp only
  rw [if_pos ⟨rfl,rfl⟩,List.takeWhile_append_of_pos lead,List.dropWhile_append_of_pos lead,stops.1,stops.2,List.append_nil]

theorem urlsplitBuilt (web : Web scheme) (parts : Parts r netloc path) :
    urlsplit r (scheme ++ colon::slash::slash::(netloc ++ path)) = some ⟨scheme,netloc,path,[],[]⟩ := by
  have kept : ((scheme ++ colon::slash::slash::(netloc ++ path)).dropWhile controlOrSpace).filter (fun c => !removed c) =
      scheme ++ colon::slash::slash::(netloc ++ path) := by
    have start : (scheme ++ colon::slash::slash::(netloc ++ path)).dropWhile controlOrSpace =
        scheme ++ colon::slash::slash::(netloc ++ path) := by
      rcases web with rfl | rfl
      · rfl
      · rfl
    rw [start]
    refine List.filter_eq_self.mpr (fun c here => ?_)
    rcases List.mem_append.mp here with lead | rest
    · rcases web with rfl | rfl
      · exact List.all_eq_true.mp (rfl : (py "http").all (!removed ·) = true) c lead
      · exact List.all_eq_true.mp (rfl : (py "https").all (!removed ·) = true) c lead
    · rcases List.mem_cons.mp rest with rfl | rest
      · rfl
      rcases List.mem_cons.mp rest with rfl | rest
      · rfl
      rcases List.mem_cons.mp rest with rfl | rest
      · rfl
      rw [parts.clean c rest]
      rfl
  unfold urlsplit
  simp only [kept,webScheme web,netlocBuilt parts.bounded parts.rooted,
    partitionAbsent (fun here => (parts.plain hash here).2 rfl),
    partitionAbsent (fun here => (parts.plain question here).1 rfl),parts.accepted,if_true]

theorem urlsplitParts {url : PyStr} {s : SplitResult} (split : urlsplit r url = some s) (located : s.netloc ≠ []) :
    Parts r s.netloc s.path ∧ ∀ c ∈ s.netloc ++ s.path, c ∈ url := by
  unfold urlsplit at split
  dsimp only at split
  split at split
  · rename_i accepted
    cases split
    have within {c : PyChar} (here : c ∈ (url.dropWhile controlOrSpace).filter (fun c => !removed c)) :
        c ∈ url ∧ removed c = false := by
      obtain ⟨there,keeps⟩ := List.mem_filter.mp here
      exact ⟨(List.dropWhile_suffix _).subset there,by simpa using keeps⟩
    generalize (url.dropWhile controlOrSpace).filter (fun c => !removed c) = text at *
    have scheme {c : PyChar} (here : c ∈ (splitScheme text).2) : c ∈ text := by
      unfold splitScheme at here
      split at here
      · rename_i rest found
        split at here
        · have tail : rest = (partition colon text).2.2 := by rw [found]
          subst tail
          exact (List.dropWhile_suffix _).subset (List.mem_of_mem_tail here)
        · exact here
      · exact here
    generalize (splitScheme text).2 = rest at *
    dsimp only at located accepted
    match rest with
    | [] => exact absurd rfl located
    | [a] => exact absurd rfl located
    | a::b::rest =>
      unfold splitNetloc at located accepted ⊢
      dsimp only at located accepted ⊢
      split at located
      · rename_i slashes
        rw [if_pos slashes] at accepted ⊢
        dsimp only at accepted ⊢
        have before {c : PyChar} (here : c ∈ rest.takeWhile (!delimiter ·)) : c ∈ rest ∧ delimiter c = false :=
          ⟨(List.takeWhile_prefix _).subset here,by simpa using List.mem_takeWhile_imp here⟩
        have after {c : PyChar}
            (here : c ∈ (partition question (partition hash (rest.dropWhile (!delimiter ·))).1).1) :
            c ∈ rest ∧ c ≠ question ∧ c ≠ hash := by
          obtain ⟨once,apart⟩ := partitionBefore here
          obtain ⟨there,other⟩ := partitionBefore once
          exact ⟨(List.dropWhile_suffix _).subset there,apart,other⟩
        have source {c : PyChar} (here : c ∈ rest) : c ∈ url ∧ removed c = false :=
          within (scheme (List.mem_cons_of_mem _ (List.mem_cons_of_mem _ here)))
        have both {c : PyChar} (here : c ∈ rest.takeWhile (!delimiter ·) ++
            (partition question (partition hash (rest.dropWhile (!delimiter ·))).1).1) : c ∈ rest := by
          rcases List.mem_append.mp here with first | second
          · exact (before first).1
          · exact (after second).1
        refine ⟨⟨fun c here => (source (both here)).2,fun c here => (before here).2,?_,fun c here => (after here).2,accepted⟩,
          fun c here => (source (both here)).1⟩
        cases path : (partition question (partition hash (rest.dropWhile (!delimiter ·))).1).1 with
        | nil => exact .inl rfl
        | cons c tail =>
          have outer := partitionHead question (partition hash (rest.dropWhile (!delimiter ·))).1
          have inner := partitionHead hash (rest.dropWhile (!delimiter ·))
          rw [path] at outer
          rcases outer with none_ | outer
          · cases none_
          rcases inner with none_ | inner
          · rw [none_] at outer
            cases outer
          rw [inner] at outer
          have ends := List.head?_dropWhile_not (!delimiter ·) rest
          rw [← outer] at ends
          have here : c ∈ (partition question (partition hash (rest.dropWhile (!delimiter ·))).1).1 := by
            rw [path]
            exact List.mem_cons_self
          obtain ⟨-,apart,other⟩ := after here
          refine .inr (congrArg some ?_)
          simpa [delimiter,apart,other] using ends
      · exact absurd rfl located
  · cases split

theorem urlunsplitWeb (web : Web scheme) (located : netloc ≠ []) (rooted : path = [] ∨ path.head? = some slash) :
    urlunsplit ⟨scheme,netloc,path,[],[]⟩ = scheme ++ colon::slash::slash::(netloc ++ path) := by
  have named : scheme ≠ [] := by
    rcases web with rfl | rfl
    · decide
    · decide
  have root : ¬(path ≠ [] ∧ path.head? ≠ some slash) := by
    rintro ⟨some_,other⟩
    rcases rooted with none_ | root
    · exact some_ none_
    · exact other root
  unfold urlunsplit
  simp only [if_pos (Or.inl located),if_neg root,if_pos named,ne_eq,not_true_eq_false,if_false,List.cons_append,List.nil_append]

end Url
end PgLlmBatch.Base
