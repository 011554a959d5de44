import FilmQuery.Text.Basic

/-!
# The prompt

The instructions that the language model is given, and the user's question after them.
-/

namespace FilmQuery.Prompt

/-- The instructions, line by line. -/
def instructions : List Text := [
  lit "Return ONLY a single JSON object. NO explanation. NO text before or after.",
  lit "Required JSON structure:",
  lit "\x7b",
  lit "  \"intent\": \"query\",",
  lit "  \"filters\": \x7b\x7d,",
  lit "  \"fields\": [\"ids\",\"title\",\"year\",\"rating\",\"directors\",\"actors\",\"genres\"],",
  lit "  \"top_n\": null",
  lit "\x7d",
  lit "Allowed filter keys: \"ids\", \"title\", \"titleExact\", \"director\", \"actor\", \"genre\",",
  lit "\"rating\" (as \x7b\"op\": \"GT\"|\"GTE\"|\"LT\"|\"LTE\"|\"EQ\", \"value\": number\x7d), "
    ++ lit "\"year\", \"year_GTE\"."]

/-- The prompt for a question. -/
def ofQuestion (question : Text) : Text :=
  Text.join (lit "\n") instructions ++ lit "\n\nUser: " ++ question ++ lit "\nJSON:\n"

end FilmQuery.Prompt
