import PgLlmBatch.BatchLines

/-! The payload document as it is stored and read back: a text and its line count, accepted
only when every line is a strict JSON object. -/
namespace PgLlmBatch
open Base
open Base.JsonText (loads strictHooks)

section
variable (i : Interpreter)

def payloadDocument (lines : List PyStr) : Json :=
  .obj [(py "text",.str (payloadContent lines)),(py "line_count",.int lines.length)]

def isCanonicalJsonObjectLine (line : PyStr) : Bool :=
  match loads i strictHooks line with
  | .ok (.obj _) => true
  | _ => false

def hasPayloadShape (members : List (PyStr × Json)) : Bool :=
  members.all (fun m => m.1 == py "text" || m.1 == py "line_count") &&
    (Json.get? members (py "text")).isSome && (Json.get? members (py "line_count")).isSome

def normalizePayloadContent (content : Json) : Except PyError PyStr :=
  match content with
  | .obj members =>
      if hasPayloadShape members then
        match Json.get members (py "text"),Json.get members (py "line_count") with
        | .str text,.int lineCount =>
            if lineCount < 0 then .error .virtualPayloadIntegrity
            else if lineCount = 0 then if text = [] then .ok text else .error .virtualPayloadIntegrity
            else if text.getLast? ≠ some newline then .error .virtualPayloadIntegrity
            else
              let lines := text.dropLast.splitOn newline
              if (lines.length : Int) ≠ lineCount ∨ lines.any List.isEmpty ∨
                  lines.any (fun line => !isCanonicalJsonObjectLine i line) then
                .error .virtualPayloadIntegrity
              else .ok text
        | _,_ => .error .virtualPayloadIntegrity
      else .error .virtualPayloadIntegrity
  | _ => .error .virtualPayloadIntegrity

-- What a reader of the stored lines joins: each line with a newline after it.
def joinedLines (lines : List PyStr) : PyStr := lines.flatMap (· ++ [newline])

theorem contentEnds {lines : List PyStr} (some_ : lines ≠ []) :
    payloadContent lines = [newline].intercalate lines ++ [newline] := by
  cases lines with
  | nil => exact absurd rfl some_
  | cons l ls => rfl

theorem contentSplits {lines : List PyStr} (some_ : lines ≠ []) (unbroken : ∀ l ∈ lines, newline ∉ l) :
    (payloadContent lines).dropLast.splitOn newline = lines := by
  rw [contentEnds some_,List.dropLast_concat]
  exact List.splitOn_intercalate newline unbroken some_

theorem contentAccepted {lines : List PyStr}
    (each : ∀ l ∈ lines, newline ∉ l ∧ l ≠ [] ∧ isCanonicalJsonObjectLine i l = true) :
    normalizePayloadContent i (payloadDocument lines) = .ok (payloadContent lines) := by
  have shape : hasPayloadShape [(py "text",.str (payloadContent lines)),(py "line_count",.int lines.length)] = true := by
    rfl
  have text : Json.get [(py "text",.str (payloadContent lines)),(py "line_count",.int lines.length)] (py "text") =
      .str (payloadContent lines) := rfl
  have count : Json.get [(py "text",.str (payloadContent lines)),(py "line_count",.int lines.length)]
      (py "line_count") = .int lines.length := rfl
  have natural : ¬(lines.length : Int) < 0 := by omega
  unfold normalizePayloadContent payloadDocument
  simp only [shape,text,count,if_true,natural,if_false]
  split
  · rename_i none_
    have empty : lines = [] := by simpa using none_
    simp [empty,payloadContent]
  · rename_i some_
    have filled : lines ≠ [] := by
      rintro rfl
      exact some_ rfl
    have last : (payloadContent lines).getLast? = some newline := by
      rw [contentEnds filled,List.getLast?_concat]
    have lineText : lines.any List.isEmpty = false := by
      simpa using fun l here => (each l here).2.1
    have canonical : lines.any (fun line => !isCanonicalJsonObjectLine i line) = false := by
      simpa using fun l here => (each l here).2.2
    simp [last,contentSplits filled (fun l here => (each l here).1),lineText,canonical]

end

section
variable (i : Interpreter) (counter : TokenCounter)

theorem lineParses {metadata : Option ModelMetadata} {r : RequestRow} {line : PyStr}
    (h : dumpLine i (rowEntry metadata r) = .ok line) : loads i strictHooks line = .ok (rowEntry metadata r) := by
  obtain ⟨own,dumped,written⟩ := lineWritten i metadata r
  rw [dumped] at h
  cases h
  exact JsonText.loadsDumped JsonText.strictFaithful (rowReadable i metadata r) written

theorem lineUnbroken {metadata : Option ModelMetadata} {r : RequestRow} {line : PyStr}
    (h : dumpLine i (rowEntry metadata r) = .ok line) : newline ∉ line := by
  obtain ⟨own,dumped,written⟩ := lineWritten i metadata r
  rw [dumped] at h
  cases h
  intro here
  exact absurd (lineSpelled i written newline here).1 (by decide)

theorem entryObject (requestId modelName mode system userPrompt : PyStr) :
    ∃ members, buildJsonEntry requestId modelName mode system userPrompt = .obj members ∧
      Json.get members (py "custom_id") = .str requestId := by
  unfold buildJsonEntry
  split
  · exact ⟨_,rfl,rfl⟩
  · exact ⟨_,rfl,rfl⟩

theorem lineFilled {line : PyStr} (h : isCanonicalJsonObjectLine i line = true) : line ≠ [] := by
  rintro rfl
  cases h

end
end PgLlmBatch
