import ImageIntake.Time.Span

namespace ImageIntake.Policy

def maxUploadBytes : Nat := 5 * 1024 * 1024

def uploadLifetime : Span := .ofSeconds 300

def cacheControl : String := "public, max-age=31536000, immutable"

def maxRequestBytes : Nat := 2 * 1024 * 1024

end ImageIntake.Policy
