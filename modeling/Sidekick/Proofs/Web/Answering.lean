import Sidekick.Command
import Sidekick.Proofs.Joke.Asking
import Sidekick.Proofs.Weather.Asking

namespace Sidekick.Web

theorem reply_iff_not_stuck (args : String) (conversation : Address) (w : World) :
    let joke := (Command.joke.reply args conversation).run w
    let weather := (Command.weather.reply args conversation).run w
    (Joke.Answered w joke ↔ ¬ Joke.Stuck w.responses) ∧
      (Joke.Stuck w.responses → joke.1 = .error .negativeCharacter) ∧
      (Weather.Answered args w weather ↔ ¬ Weather.Stuck args w.responses) ∧
      (Weather.Stuck args w.responses → weather.1 = .error .negativeCharacter) := by
  obtain ⟨joke, stuckJoke⟩ := Joke.answered_iff w
  obtain ⟨weather, stuckWeather⟩ := Weather.answered_iff args w
  exact ⟨joke, stuckJoke, weather, stuckWeather⟩

theorem not_answered_negative :
    ¬ Joke.Answered { World.initial with responses := [.body "\x7b\"joke\":\"\\u-123\"\x7d"] }
      ((Command.joke.reply "" .nobody).run
        { World.initial with responses := [.body "\x7b\"joke\":\"\\u-123\"\x7d"] }) := by
  have negative : Field.HasNegative "\x7b\"joke\":\"\\u-123\"\x7d".toList "joke".toList :=
    ⟨"\\u-123\"\x7d".toList, "-123".toList, by rfl, by decide, by decide⟩
  refine fun answered => (Joke.answered_iff _).1.mp answered ⟨0, by decide, ?_, _, rfl, negative⟩
  exact fun j before => absurd before (Nat.not_lt_zero j)

end Sidekick.Web
