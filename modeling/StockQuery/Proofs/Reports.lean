import StockQuery.Command

/-!
# The words of the reports

What the reports say, word by word. For people a statement stands on the first line, above an empty
line, a heading and its numbered parameters, and an explanation ends with the full-text query. For
programs a prepared search is an object with four fields, one per line, and a rejected search string
an object on a single line.
-/

namespace StockQuery

/-- Texts with a separator between any two are the first one, and the others with the separator in
front of each. -/
theorem Text.intercalate_cons_eq_join (sep first : String) (more : List String) :
    String.intercalate sep (first :: more) = first ++ String.join (more.map (sep ++ ·)) := by
  induction more generalizing first with
  | nil => simp
  | cons next more ih =>
    rw [String.intercalate_cons_cons, ih next]
    simp [String.append_assoc]

/-! ## Documents -/

namespace Document

/-- Entries between two brackets, with a comma and a line break in front of each but the first. -/
theorem block_cons (opening closing : String) (depth : Nat) (entry : String) (more : List String) :
    block opening closing depth (entry :: more) =
      opening ++ lineBreak (depth + 1) ++ entry ++
        String.join (more.map ("," ++ lineBreak (depth + 1) ++ ·)) ++ lineBreak depth ++
        closing := by
  rw [block, if_neg (by simp), Text.intercalate_cons_eq_join]
  simp only [← String.append_assoc]

/-- The items of a list are written one by one. -/
theorem indentedItems_eq (depth : Nat) (items : List Document) :
    indentedItems depth items = items.map (indented depth) := by
  induction items with
  | nil => rfl
  | cons item rest ih => rw [indentedItems, ih, List.map_cons]

/-- A list of texts has one of them per line. -/
theorem indented_texts (depth : Nat) (first : String) (more : List String) :
    (list ((first :: more).map text)).indented depth =
      "[" ++ lineBreak (depth + 1) ++ quoteText first ++
        String.join (more.map fun param => "," ++ lineBreak (depth + 1) ++ quoteText param) ++
        lineBreak depth ++ "]" := by
  have htexts : (indented (depth + 1) ∘ text : String → String) = quoteText := by
    funext value
    rw [Function.comp_apply, indented]
  rw [indented, indentedItems_eq, List.map_map, htexts, List.map_cons, block_cons, List.map_map]
  rfl

end Document

/-! ## Plain reports -/

/-- What starts like a full-text query is no text that starts otherwise, such as the one that stands
for a missing query. -/
theorem TextQuery.opening_append_ne (rest : String) {text : String}
    (h : text.toList.head? ≠ some '<') : opening ++ rest ≠ text := by
  rintro rfl
  apply h
  rw [String.toList_append]
  rfl

namespace Report

/-- A statement stands above its parameters, which are numbered from one on. -/
theorem statement_some (sql first : String) (more : List String) :
    statement (some ⟨sql, first :: more⟩) =
      sql ++ "\n\nparams:\n  1: " ++ first ++ String.join (more.mapIdx fun index param =>
        "\n  " ++ toString (index + 2) ++ ": " ++ param) := by
  have hmore : (more.mapIdx fun index param => "  " ++ toString (index + 2) ++ ": " ++ param).map
      ("\n" ++ ·) =
        more.mapIdx fun index param => "\n  " ++ toString (index + 2) ++ ": " ++ param := by
    simp only [List.mapIdx_eq_zipIdx_map, List.map_map]
    refine List.map_congr_left fun _ _ => ?_
    simp only [Function.comp_apply, ← String.append_assoc]
    rfl
  have hlines : ∀ lines : List String,
      ofLines (sql :: "" :: "params:" :: ("  1: " ++ first) :: lines) =
        sql ++ "\n\nparams:\n  1: " ++ first ++ String.join (lines.map ("\n" ++ ·)) := by
    intro lines
    rw [ofLines, Text.intercalate_cons_eq_join]
    simp [← String.append_assoc]
  rw [statement]
  simp only [List.mapIdx_cons, List.cons_append, List.nil_append]
  rw [← hmore, ← hlines]
  rfl

/-- All that `explain` prints before the full-text query. -/
def listing (query : NormalQuery) : String :=
  ofLines (
    "terms:" :: query.terms.map (fun alternatives =>
      "  - " ++ String.intercalate " | " alternatives)
    ++ "negations:" :: query.negations.map ("  - " ++ ·)
    ++ "filters:" :: query.filters.map (fun (name, values) =>
      "  " ++ name ++ ": " ++ String.intercalate ", " (values.map criterion)))

/-- The full-text query stands on the last line, below its heading. -/
theorem explanation_eq (query : NormalQuery) (textQuery : Option String) :
    explanation query textQuery =
      listing query ++ "\ntext query:\n" ++ textQueryLine textQuery := by
  have hlast : String.intercalate "\n" ["text query:", textQueryLine textQuery] =
      "text query:\n" ++ textQueryLine textQuery := by
    rw [String.intercalate_cons_cons, String.intercalate_singleton]
    rfl
  rw [explanation, ofLines, String.intercalate_append_of_ne_nil (by simp) (by simp), hlast]
  simp only [listing, ofLines, String.append_assoc]
  rfl

/-- A full-text query stands behind two blanks. -/
theorem textQueryLine_opening (rest : String) :
    textQueryLine (some (TextQuery.opening ++ rest)) = "  " ++ (TextQuery.opening ++ rest) := by
  have hempty : TextQuery.opening ++ rest ≠ "" := TextQuery.opening_append_ne rest (by decide)
  simp only [textQueryLine, if_neg hempty]

/-! ## Structured reports -/

/-- A prepared search has its four fields in this order, one step deeper than its braces. -/
theorem preparedJson_eq (plan : SearchPlan) :
    preparedJson plan =
      "\x7b\n  \"text_query\": " ++ (textDocument plan.query.textQuery).indented 1 ++
      ",\n  \"filters\": " ++ (filtersDocument plan.query.filters).indented 1 ++
      ",\n  \"sql\": " ++ (textDocument (plan.statement.map Statement.sql)).indented 1 ++
      ",\n  \"params\": " ++
        (Document.list (((plan.statement.map Statement.params).getD []).map .text)).indented 1 ++
      "\n\x7d" := by
  have hobject : ∀ query filters sql params : Document,
      (Document.object [("text_query", query), ("filters", filters), ("sql", sql),
        ("params", params)]).indented 0 =
      "\x7b\n  \"text_query\": " ++ query.indented 1 ++ ",\n  \"filters\": " ++
        filters.indented 1 ++ ",\n  \"sql\": " ++ sql.indented 1 ++ ",\n  \"params\": " ++
        params.indented 1 ++ "\n\x7d" := by
    intro query filters sql params
    have hnames : ["text_query", "filters", "sql", "params"].map Document.quoteText =
        ["\"text_query\"", "\"filters\"", "\"sql\"", "\"params\""] := by decide +kernel
    obtain ⟨hquery, hfilters, hsql, hparams⟩ : _ ∧ _ ∧ _ ∧ _ := by simpa using hnames
    have hbreaks : Document.lineBreak 0 = "\n" ∧ Document.lineBreak 1 = "\n  " := by
      decide +kernel
    apply String.toList_inj.1
    rw [Document.indented]
    simp only [Document.indentedFields, Document.block_cons, hbreaks.1, hbreaks.2, hquery,
      hfilters, hsql, hparams]
    simp
  exact hobject _ _ _ _

/-- Where there is nothing to search for, only the filters are told. -/
theorem preparedJson_nothing (filters : Filters) :
    preparedJson ⟨⟨none, filters⟩, none⟩ =
      "\x7b\n  \"text_query\": null,\n  \"filters\": " ++ (filtersDocument filters).indented 1 ++
      ",\n  \"sql\": null,\n  \"params\": []\n\x7d" := by
  apply String.toList_inj.1
  rw [preparedJson_eq]
  simp only [textDocument, Option.map_none, Document.indented, Option.getD_none, List.map_nil,
    Document.indentedItems, Document.block]
  simp

/-- A full-text query is told by itself and again as the first parameter of the statement. -/
theorem preparedJson_some (filters : Filters) (sql first : String) (more : List String) :
    preparedJson ⟨⟨some first, filters⟩, some ⟨sql, first :: more⟩⟩ =
      "\x7b\n  \"text_query\": " ++ Document.quoteText first ++ ",\n  \"filters\": " ++
      (filtersDocument filters).indented 1 ++ ",\n  \"sql\": " ++ Document.quoteText sql ++
      ",\n  \"params\": [\n    " ++ Document.quoteText first ++
      String.join (more.map fun param => ",\n    " ++ Document.quoteText param) ++
      "\n  ]\n\x7d" := by
  have hbreaks : Document.lineBreak 1 = "\n  " ∧ Document.lineBreak 2 = "\n    " := by
    decide +kernel
  have hparams := Document.indented_texts 1 first more
  rw [hbreaks.1, hbreaks.2] at hparams
  apply String.toList_inj.1
  rw [preparedJson_eq]
  simp only [Option.map_some, Option.getD_some, hparams]
  simp only [textDocument, Document.indented]
  simp

/-- A rejected search string on one line. -/
theorem diagnosisJson_eq (d : Diagnosis) :
    diagnosisJson d =
      "\x7b\"error\": \x7b\"message\": " ++ Document.quoteText d.message ++ ", \"position\": " ++
        toString d.position ++ ", \"fragment\": " ++ Document.quoteText d.fragment ++
        "\x7d\x7d" := by
  have hnames : ["error", "message", "position", "fragment"].map Document.quoteText =
      ["\"error\"", "\"message\"", "\"position\"", "\"fragment\""] := by decide +kernel
  obtain ⟨herror, hmessage, hposition, hfragment⟩ : _ ∧ _ ∧ _ ∧ _ := by simpa using hnames
  apply String.toList_inj.1
  simp only [diagnosisJson, diagnosisDocument, Document.oneLine, Document.oneLineFields,
    Text.intercalate_cons_eq_join, herror, hmessage, hposition, hfragment]
  simp

end Report

end StockQuery
