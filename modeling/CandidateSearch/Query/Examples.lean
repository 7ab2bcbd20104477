import CandidateSearch.Text.Basic

/-!
# Example queries

Six queries that show the language.
-/

namespace CandidateSearch

/-- The example queries. -/
def exampleQueries : List Text := List.map String.toList [
  "+Keywords:(B2G OR Government OR \"Public Sector\") SAAS AND enterprise, "
    ++ "+Job title:(\"Sales\" OR \"Business Development\"), "
    ++ "+Job title time scope:Current or past, +Location:(Riyadh, Saudi Arabia)",
  "+Keywords:(React OR Angular OR Vue) AND (TypeScript OR JavaScript), "
    ++ "+Job title:(\"Frontend Developer\" OR \"UI Developer\"), +Location:(Dublin, Ireland)",
  "+Keywords:(Python AND Django) OR (Node.js AND Express), "
    ++ "+Job title:(\"Backend Developer\" OR \"Full Stack Developer\"), "
    ++ "+Job title time scope:Current",
  "+Keywords:(AWS OR Azure OR \"Google Cloud\") AND DevOps, "
    ++ "+Job title:(\"DevOps Engineer\" OR \"Cloud Engineer\"), +Location:(London, UK)",
  "+Keywords:Platform, +Company:(\"Integrant, Inc.\"), "
    ++ "+Company time scope:Current or past, +Location:(Egypt)",
  "+Keywords:FinTech, +Job title:(\"UX Designer\"), "
    ++ "+Job occupation:((Product Designer) OR (User Experience Designer)), "
    ++ "+Company:(\"Careem\" OR \"Jahez\" OR \"Deliveroo\"), "
    ++ "+Job title time scope:Current or past"]

end CandidateSearch
