import RemoteTags.Memory.Server
import RemoteTags.Proofs.Tag.Locate
import RemoteTags.Proofs.Text.Lossy
import RemoteTags.Tag.Load

/-! What a tags file is read as. Its lines are those of its text, although each of them is decoded
for itself; and a carriage return at the end of a line does not belong to the record. -/

namespace RemoteTags

theorem Record.parse_of_sameLine {a b : List Char} (same : Locate.SameLine a b) :
    parse (String.ofList b) = parse (String.ofList a) := by
  rcases same with rfl | rfl
  · rfl
  · have trailing : Text.dropTrailing isLineEnd (a ++ ['\r']) = Text.dropTrailing isLineEnd a :=
      Text.dropTrailing_append_of_all a rfl
    simp only [parse, String.toList_ofList, trailing]

theorem Record.filterMap_of_sameLine {xs ys : List (List Char)}
    (same : List.Forall₂ Locate.SameLine xs ys) :
    ys.filterMap (fun line => parse (String.ofList line)) =
      xs.filterMap fun line => parse (String.ofList line) := by
  induction same with
  | nil => rfl
  | cons first rest ih =>
    rw [List.filterMap_cons, List.filterMap_cons, parse_of_sameLine first, ih]

namespace TagIndex

theorem filterMap_fileLines (content : Bytes) :
    (fileLines content).filterMap (fun line => Record.parse (Utf8.lossyString line)) =
      (content.splitOn 10).filterMap fun line => Record.parse (Utf8.lossyString line) := by
  unfold fileLines
  dsimp only
  split
  · rename_i ends
    have last := List.dropLast_append_getLast? [] ends
    have none : Record.parse (Utf8.lossyString []) = none := rfl
    nth_rewrite 2 [← last]
    rw [List.filterMap_append, List.filterMap_cons, none, List.filterMap_nil, List.append_nil]
  · rfl

theorem lines_lossyString (content : Bytes) :
    Text.lines (Utf8.lossyString content) = (content.splitOn 10).map Utf8.lossyString := by
  rw [Text.lines, Utf8.lossyString, String.toList_ofList, Utf8.splitOn_decodeLossy, List.map_map]
  rfl

theorem ofBytes_eq (content : Bytes) :
    ofBytes content = ofLines (Text.lines (Utf8.lossyString content)) := by
  rw [ofBytes, ofLines, ofLines, lines_lossyString, List.filterMap_map, List.filterMap_map]
  exact congrArg (List.foldl push empty) (filterMap_fileLines content)

theorem lossyString_withReturns (content : Bytes) :
    Utf8.lossyString (Utf8.withReturns content) =
      Locate.withReturns (Utf8.lossyString content) := by
  rw [Utf8.lossyString, Utf8.decodeLossy_withReturns, Locate.withReturns, Utf8.lossyString,
    String.toList_ofList]

theorem ofLines_withReturns (text : String) :
    ofLines (Text.lines (Locate.withReturns text)) = ofLines (Text.lines text) := by
  have records := Record.filterMap_of_sameLine (Locate.splitOn_withReturns text.toList)
  rw [ofLines, ofLines, Text.lines, Text.lines, Locate.withReturns, String.toList_ofList,
    List.filterMap_map, List.filterMap_map]
  exact congrArg (List.foldl push empty) records

/-- A file that can be read is indexed by the lines of its text, whatever bytes had to be replaced
in it; and it makes no difference whether a carriage return stands before each line feed. -/
theorem load_eq_ofLines {H : Type} (host : Host H) {w w' : World H} {path path' : String}
    {content : Bytes} (stored : w.disk.read path = .ok content)
    (returned : w'.disk.read path' = .ok (Utf8.withReturns content)) :
    (w.run host (load path)).1 = .ok (ofLines (Text.lines (Utf8.lossyString content))) ∧
      (w'.run host (load path')).1 = (w.run host (load path)).1 := by
  have loaded : (w.run host (load path)).1 = ofRead path (w.disk.read path) := rfl
  have loaded' : (w'.run host (load path')).1 = ofRead path' (w'.disk.read path') := rfl
  rw [loaded, loaded', stored, returned, ofRead, ofRead, ofBytes_eq, ofBytes_eq,
    lossyString_withReturns, ofLines_withReturns]
  exact ⟨rfl, rfl⟩

/-- Two files that differ in their line ends. A character is broken off by the first line feed, and
behind the last line there is none. -/
def twoEndings : Local.Disk where
  nodes := [
    (["feeds"], .file [102, 9, 97, 9, 49, 0xE2, 0x82, 10, 103, 9, 98, 9, 50]),
    (["returns"], .file [102, 9, 97, 9, 49, 0xE2, 0x82, 13, 10, 103, 9, 98, 9, 50])]

theorem load_eq_ofLines_broken :
    let w : World Memory.Server := { disk := twoEndings, host := {} }
    (w.run Memory.Server.answer (load "/feeds")).1 =
        .ok (ofLines ["f\ta\t1\uFFFD", "g\tb\t2"]) ∧
      (w.run Memory.Server.answer (load "/returns")).1 =
        (w.run Memory.Server.answer (load "/feeds")).1 := by
  have text : Text.lines (Utf8.lossyString [102, 9, 97, 9, 49, 0xE2, 0x82, 10, 103, 9, 98, 9, 50]) =
      ["f\ta\t1\uFFFD", "g\tb\t2"] := by
    decide +kernel
  rw [← text]
  have stored : twoEndings.read "/feeds" =
      .ok [102, 9, 97, 9, 49, 0xE2, 0x82, 10, 103, 9, 98, 9, 50] := by
    decide +kernel
  have returned : twoEndings.read "/returns" =
      .ok (Utf8.withReturns [102, 9, 97, 9, 49, 0xE2, 0x82, 10, 103, 9, 98, 9, 50]) := by
    decide +kernel
  exact load_eq_ofLines Memory.Server.answer stored returned

end TagIndex

end RemoteTags
