import LayeredFlags.Proofs.LayerText.Says
/-!
# Joined Texts

A text that ends its line and is read leaves nothing behind: no comment and no literal is open
after it, and its lines are counted. A text behind it is therefore read as it is alone, with all
its lines further down by as many lines as the first text has.

## Main results

* `readLines_append_of_eq_ok`: the same for lines;
* `parse_append_eq`: the outcome for a joined text as a function of the outcome for its end;
* `parse_append`: when a joined text is read, what it says, and why it is refused.
-/

namespace LayeredFlags.LayerText

open Text

/-- Lines behind lines that are read say what they say alone, further down. -/
theorem readLines_append_of_eq_ok {number : Nat} {first second : List (List Char)}
    {here : List Line} (h : readLines number .code first = .ok here) :
    readLines number .code (first ++ second) =
      (here ++ ·) <$> outcomeLater first.length (readLines number .code second) := by
  have hlater := readLines_later first.length number .code second
  rw [Region.later_code] at hlater
  rw [readLines_append, runLines_of_readLines h]
  simp only [ok_bind, hlater]
  cases readLines number .code second <;> rfl

variable {first second : String} {document : Document}

/-- The outcome for a joined text is that for the second text, further down and behind the lines
of the first one. -/
theorem parse_append_eq (hends : EndsLine first.toList) (hfirst : parse first = .ok document) :
    parse (first ++ second) =
      ((fun rest : Document =>
          ⟨document.lines ++ rest.lines.map (Line.later (first.toList.count '\n'))⟩) <$>
        parse second).mapError (Error.later (first.toList.count '\n')) := by
  obtain ⟨here, hread, rfl⟩ := map_eq_ok_iff.1 hfirst
  rw [parse, parse, String.toList_append, lines_append hends, readLines_append_of_eq_ok hread,
    length_lines hends]
  cases readLines 1 .code (lines second.toList) <;> rfl

/-- Texts compose. Behind a text that ends its line and is read, a second text is read exactly
when it is read alone. The joined text then says what both say, with the lines of the second one
further down by the line feeds of the first one. If the second text is refused, the joined text is
refused for the same fault, which is as much further down. -/
theorem parse_append (hends : EndsLine first.toList) (hfirst : parse first = .ok document) :
    ((∃ whole, parse (first ++ second) = .ok whole) ↔ ∃ rest, parse second = .ok rest) ∧
      (∀ rest, parse second = .ok rest →
        parse (first ++ second) =
          .ok ⟨document.lines ++ rest.lines.map (Line.later (first.toList.count '\n'))⟩) ∧
      ∀ error, parse second = .error error →
        parse (first ++ second) = .error (error.later (first.toList.count '\n')) := by
  have hjoined := @parse_append_eq first second document hends hfirst
  refine ⟨?_, ?_, ?_⟩
  · rw [hjoined]
    cases parse second <;> simp
  · intro rest hrest
    rw [hjoined, hrest, map_ok, mapError_ok]
  · intro error herror
    rw [hjoined, herror, map_error, mapError_error]

/-- A comment that spans lines and a line with two ends of line in front of a text with a fault on
its second line. -/
theorem parse_append_spanning :
    parse "/* notes\r\n*/ ENABLE A\n\n" = .ok ⟨[⟨2, .assert ⟨"A", .enabled⟩⟩]⟩ ∧
      parse "#undef B\r\nTURN C" = .error ⟨2, .malformed (.unknownKeyword "TURN")⟩ ∧
      parse ("/* notes\r\n*/ ENABLE A\n\n" ++ "#undef B\r\nTURN C") =
        .error ⟨5, .malformed (.unknownKeyword "TURN")⟩ ∧
      parse ("/* notes\r\n*/ ENABLE A\n\n" ++ "#undef B") =
        .ok ⟨[⟨2, .assert ⟨"A", .enabled⟩⟩, ⟨4, .assert ⟨"B", .disabled⟩⟩]⟩ := by
  have hends : EndsLine "/* notes\r\n*/ ENABLE A\n\n".toList := by decide
  have hfirst : parse "/* notes\r\n*/ ENABLE A\n\n" = .ok ⟨[⟨2, .assert ⟨"A", .enabled⟩⟩]⟩ := rfl
  have hfault : parse "#undef B\r\nTURN C" = .error ⟨2, .malformed (.unknownKeyword "TURN")⟩ := rfl
  have hread : parse "#undef B" = .ok ⟨[⟨1, .assert ⟨"B", .disabled⟩⟩]⟩ := rfl
  exact ⟨hfirst, hfault, (parse_append hends hfirst).2.2 _ hfault,
    (parse_append hends hfirst).2.1 _ hread⟩

end LayeredFlags.LayerText
