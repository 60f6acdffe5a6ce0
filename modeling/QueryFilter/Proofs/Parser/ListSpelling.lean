import QueryFilter.Proofs.Parser.Effects
import QueryFilter.Proofs.QueryString.Respelling

/-!
# Lists in query strings

A parser does not see how a list was written in a query string: by repeating the name of the
field, or by repeating the name with the array suffix. Whatever the parser is, the field is read
under the name without the suffix, and its value is the same list at the same place.

* `route_bracketName`: what becomes of a list under either name;
* `parseQueryString_of_isRespelling`: the outcome of a query string with either name.
-/

namespace QueryFilter

universe u

namespace Parser

open QueryString

variable {name query : String}

/-- A list is read under the name without the suffix, whichever it has. -/
theorem route_bracketName (p : Parser) (hname : hasArraySuffix name = false) {k : String}
    {raw : Value} (h : k = name → ∃ items, raw = .list items) :
    p.route (bracketName name k) raw = p.route k raw := by
  by_cases hk : k = name
  · obtain ⟨items, rfl⟩ := h hk
    have hfield : fieldName (bracketName name k) (.list items) = fieldName k (.list items) := by
      rw [bracketName, if_pos hk, fieldName, fieldName, dropArraySuffix_append, hk,
        dropArraySuffix_of_not hname]
    rw [route, route, hfield]
  · rw [bracketName, if_neg hk]

/-- If a name occurs several times in a query string and never with the array suffix, then the
    suffix can be written after every occurrence of it, and a query string in which this has been
    done has the same outcome as before: the same filter or the same error. This is so for every
    parser and whatever its builders do, with whatever effects. -/
theorem parseQueryString_of_isRespelling (p : Parser) (hname : hasArraySuffix name = false)
    (hmany : 2 ≤ ((pairs query.toList).map Prod.fst).count name)
    (hnew : name ++ "[]" ∉ (pairs query.toList).map Prod.fst) :
    IsRespelling name query (respell name query) ∧ ∀ query', IsRespelling name query query' →
      p.parseQueryString query' = p.parseQueryString query ∧
        ∀ (m : Type → Type u) [Monad m] (act : BuilderAction m),
          p.parseIn act (decode query') = p.parseIn act (decode query) := by
  refine ⟨isRespelling_respell name query, fun query' h => ?_⟩
  have hroute : ∀ field ∈ decode query,
      p.route (bracketName name field.1) field.2 = p.route field.1 field.2 := by
    intro field hfield
    refine p.route_bracketName hname fun hk => ?_
    exact exists_list_of_mem_decode hmany (hk ▸ hfield)
  rw [parseQueryString, parseQueryString, decode_of_isRespelling hmany hnew h]
  exact parse_map (fun k _ => bracketName name k) hroute

/-- A list between whose items there is another field, with the suffix as it is and escaped. -/
theorem parseQueryString_of_isRespelling_tag :
    hasArraySuffix "tag" = false ∧
    2 ≤ ((pairs "?tag=a&lang=is&t%61g=!b".toList).map Prod.fst).count "tag" ∧
    "tag" ++ "[]" ∉ (pairs "?tag=a&lang=is&t%61g=!b".toList).map Prod.fst ∧
    (ofOptions (.standard .standard)).parseQueryString "?tag[]=a&lang=is&t%61g[]=!b" =
      (ofOptions (.standard .standard)).parseQueryString "?tag=a&lang=is&t%61g=!b" ∧
    (ofOptions (.standard .standard)).parseQueryString "tag%5b%5D=a&lang=is&tag[]=%21b" =
      (ofOptions (.standard .standard)).parseQueryString "?tag=a&lang=is&t%61g=!b" := by
  have hname : hasArraySuffix "tag" = false := by decide
  have hmany : 2 ≤ ((pairs "?tag=a&lang=is&t%61g=!b".toList).map Prod.fst).count "tag" := by
    decide +kernel
  have hnew : "tag" ++ "[]" ∉ (pairs "?tag=a&lang=is&t%61g=!b".toList).map Prod.fst := by
    decide +kernel
  obtain ⟨hwritten, hall⟩ :=
    parseQueryString_of_isRespelling.{0} (ofOptions (.standard .standard)) hname hmany hnew
  have htext : respell "tag" "?tag=a&lang=is&t%61g=!b" = "?tag[]=a&lang=is&t%61g[]=!b" := by
    decide +kernel
  have hescaped : IsRespelling "tag" "?tag=a&lang=is&t%61g=!b" "tag%5b%5D=a&lang=is&tag[]=%21b" := by
    decide +kernel
  exact ⟨hname, hmany, hnew, htext ▸ (hall _ hwritten).1, (hall _ hescaped).1⟩

end Parser

end QueryFilter
