import ResilientCalls.Summary.Model

namespace ResilientCalls.Summary

def Style.instruction : Style → String
  | .concise => "Create a brief, concise summary focusing on the main points."
  | .detailed => "Create a comprehensive summary that covers key details and context."
  | .bulletPoints => "Create a summary using bullet points to highlight key information."

/-- The prompt for at most so many words, which are given as a text. -/
def promptFor (words : String) (style : Style) (language : String) : String :=
  "You are a professional text summarizer. " ++ style.instruction ++ "\n\n"
    ++ "Instructions:\n"
    ++ "- Summarize in " ++ language ++ "\n"
    ++ "- Keep the summary under " ++ words ++ " words\n"
    ++ "- Focus on the most important information\n"
    ++ "- Maintain the original meaning and context\n"
    ++ "- Use clear, readable language\n"
    ++ "- Do not add your own opinions or interpretations\n"
    ++ "- Do not start with phrases like \"Here is a summary of the text\" "
    ++ "or \"Here is the summary in " ++ language ++ ":\"\n\n"
    ++ "Output only the summary, nothing else."

def systemPrompt (maxLength : Int) (style : Style) (language : String) : String :=
  promptFor (toString maxLength) style language

def userPrompt (text : String) : String := "Please summarize the following text: " ++ text

/-- One token for every four characters begun. -/
def tokens (characters : Nat) : Nat := (characters + 3) / 4

end ResilientCalls.Summary
